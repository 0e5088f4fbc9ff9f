import RowPayload.Proofs.Engine.Filing
import RowPayload.Proofs.Engine.View
import RowPayload.Proofs.Lifecycle.Wording

/-!
# What lifecycle statements do

The statement of a mode, run by the engine, does what the mode says: it empties the payloads
of the rows that the filter matches, or inserts the new row, or does the one or the other
after asking whether a row matches. The values of the row go to the columns of their
properties, whatever placeholders they are bound to, and the filter keeps its own.
-/

namespace RowPayload.Lifecycle

open Engine (Table TableRow Failure Scene Server)
open Sql (Token Operand Condition Statement tokenize)

variable {ε : Type} {descriptor : Descriptor} {filter : Clause} {table : Table}
variable {place : String → Nat}

/-! ## New rows -/

/-- The values of a new row by property, the payload property left out. -/
def listed (descriptor : Descriptor) :
    List (String × ValueSource ε) → StateM ε (List (String × Value))
  | [] => return []
  | (property, source) :: rest =>
    if property = descriptor.payload then listed descriptor rest
    else do
      let value ← (source.evaluate : StateM ε Value)
      let others ← listed descriptor rest
      return (property, value) :: others

/-- The value that a new row gets in a column: empty bytes in that of the payload, the value
of the last property listed that is stored in the column, or null. -/
def newCell (descriptor : Descriptor) (place : String → Nat) (values : List (String × Value))
    (column : Nat) : Value :=
  if column = place descriptor.payload then .bytes []
  else ((values.reverse.find? fun entry => place entry.1 == column).map Prod.snd).getD .null

/-- The columns of a filling are those of a table. -/
def Filling.Fits (table : Table) (filling : Filling) : Prop :=
  ']' ∉ filling.name.toList ∧
    table.columns.findIdx? (fun column => Text.sameLetters column.name filling.name) =
      some filling.place

/-- The place and the value of a filling. -/
def Filling.cell (filling : Filling) : Nat × Value := (filling.place, filling.value)

/-- The properties of a new row that are all mapped fill the columns they are stored in. -/
theorem boundColumns_fillings (stored : ∀ property, descriptor.columns.contains property = true →
      descriptor.StoredAt table property (place property))
    {entries : List (String × ValueSource ε)}
    (mapped : ∀ entry ∈ entries, descriptor.columns.contains entry.1 = true) (surroundings : ε) :
    ∃ fillings : List Filling, (boundColumns descriptor entries).perform surroundings =
        (.ok (fillings.map Filling.entry), ((listed descriptor entries).run surroundings).2) ∧
      (∀ filling ∈ fillings, filling.Fits table) ∧ fillings.length ≤ entries.length ∧
      fillings.map Filling.cell = ((listed descriptor entries).run surroundings).1.map
        (fun entry => (place entry.1, entry.2)) := by
  induction entries generalizing surroundings with
  | nil => exact ⟨[], rfl, nofun, Nat.le_refl _, rfl⟩
  | cons entry rest inductionHypothesis =>
    obtain ⟨property, source⟩ := entry
    have mappedRest : ∀ entry ∈ rest, descriptor.columns.contains entry.1 = true :=
      fun entry member => mapped entry (by simp [member])
    by_cases payload : property = descriptor.payload
    · rw [boundColumns, listed, if_pos payload, if_pos payload]
      obtain ⟨fillings, performed, fits, few, cells⟩ := inductionHypothesis mappedRest surroundings
      exact ⟨fillings, performed, fits, Nat.le_succ_of_le few, cells⟩
    · obtain ⟨name, known, closed, found⟩ := stored property (mapped (property, source) (by simp))
      have column : descriptor.column property = .ok ("[" ++ name ++ "]") := by
        rw [Descriptor.column, known]
      obtain ⟨fillings, performed, fits, few, cells⟩ :=
        inductionHypothesis mappedRest (source.evaluate surroundings).2
      refine ⟨⟨name, place property, (source.evaluate surroundings).1⟩ :: fillings, ?_, ?_,
        Nat.succ_le_succ few, ?_⟩
      · rw [boundColumns, listed, if_neg payload, if_neg payload]
        simp only [Work.perform_bind, column, Work.perform_lift, ValueSource.perform_produce,
          performed, Work.perform_pure]
        rfl
      · intro filling member
        rcases List.mem_cons.1 member with rfl | later
        · exact ⟨closed, found⟩
        · exact fits filling later
      · rw [List.map_cons, cells, listed, if_neg payload]
        rfl

/-- The last value assigned by the values that are listed and the payload is the new row's. -/
theorem lastValue?_listed (values : List (String × Value)) (column : Nat) :
    (Engine.lastValue? ((values.map fun entry => (place entry.1, entry.2)) ++
      [(place descriptor.payload, .bytes [])]) column).getD .null =
      newCell descriptor place values column := by
  rw [Engine.lastValue?, newCell, List.reverse_append, ← List.map_reverse]
  by_cases payload : column = place descriptor.payload
  · simp [payload]
  · have other : (place descriptor.payload == column) = false := by
      simpa using Ne.symm payload
    simp only [List.reverse_singleton, List.singleton_append, List.find?_cons, other,
      if_neg payload, List.find?_map, Function.comp_def, Option.map_map]

/-! ## Columns and parameters -/

/-- A filling that fits is found under its name. -/
theorem Filling.Fits.columnIndex {filling : Filling} (fits : filling.Fits table) :
    table.columnIndex filling.name = .ok filling.place :=
  Engine.Table.columnIndex_of_findIdx? fits.1 fits.2

/-- A filling that fits has its place among the columns. -/
theorem Filling.Fits.inside {filling : Filling} (fits : filling.Fits table) :
    filling.place < table.columns.length := by
  obtain ⟨within, -⟩ := List.findIdx?_eq_some_iff_getElem.1 fits.2
  exact within

/-- The columns and the operands of an insertion stand for the places and values of its
fillings, if the parameters bind the values from an ordinal on. -/
theorem resolve_fillings {scene : Scene} {fillings : List Filling}
    (fits : ∀ filling ∈ fillings, filling.Fits table) {payload : Filling}
    (payloadFits : payload.Fits table) {before : List Value}
    (binds : before ++ fillings.map Filling.value <+: boundValues scene.parameters) :
    scene.resolve table ((fillings.map Filling.name ++ [payload.name]).zip
        ((List.range' before.length fillings.length).map .parameter ++ [.binary []])) =
      .ok (fillings.map Filling.cell ++ [(payload.place, .bytes [])]) := by
  induction fillings generalizing before with
  | nil =>
    show scene.resolve table [(payload.name, .binary [])] = _
    rw [Scene.resolve, payloadFits.columnIndex]
    rfl
  | cons first rest inductionHypothesis =>
    have bound : Engine.parameterValue scene.parameters before.length = .ok first.value := by
      apply Engine.parameterValue_of_boundValues
      obtain ⟨others, equal⟩ := binds
      rw [← equal]
      simp
    have bindsRest : before ++ [first.value] ++ rest.map Filling.value <+:
        boundValues scene.parameters := by
      simpa using binds
    have following := inductionHypothesis
      (fun filling member => fits filling (by simp [member])) bindsRest
    rw [List.length_append, List.length_singleton] at following
    have column := (fits first (by simp)).columnIndex
    have shape : (((first :: rest).map Filling.name ++ [payload.name]).zip
        ((List.range' before.length (first :: rest).length).map Operand.parameter ++
          [Operand.binary []])) =
        (first.name, Operand.parameter before.length) ::
          ((rest.map Filling.name ++ [payload.name]).zip
            ((List.range' (before.length + 1) rest.length).map Operand.parameter ++
              [Operand.binary []])) := rfl
    rw [shape, Scene.resolve, column]
    simp only [bind, Except.bind, Engine.constantValue, Engine.operandValue, bound]
    rw [following]
    rfl

/-! ## Effects -/

/-- What preparing a row for its payload leads to in each mode, from the table before, the
rows that match, the column of the payload and the cells of the new row. -/
def Prepared (mode : OpenMode) (before : Table) (matching : TableRow → Bool) (column : Nat)
    (cell : Nat → Value) (answer : Except Failure Nat) (after : Table) : Prop :=
  match mode with
  | .openExisting | .append => False
  | .truncate =>
    before.Emptied after matching column ∧ answer = .ok (before.rows.countP matching)
  | .createNew => before.Created cell answer after
  | .create =>
    if before.rows.any matching then
      before.Emptied after matching column ∧ answer = .ok (before.rows.countP matching)
    else before.Created cell answer after
  | .openOrCreate =>
    if before.rows.any matching then after = before ∧ answer = .ok 0
    else before.Created cell answer after

section

variable {scene : Scene} {matching : TableRow → Bool} {payload : Filling}
variable (wording : Wording descriptor filter)

/-- The statement that inserts a row leads to the row with its cells, or is refused. -/
theorem leadsTo_insertion (sound : table.Sound) (found : scene.table wording.table = .ok table)
    {fillings : List Filling} (fits : ∀ filling ∈ fillings, filling.Fits table)
    (payloadFits : payload.Fits table) (named : payload.name = wording.payload)
    (placed : payload.place = place descriptor.payload) {values : List (String × Value)}
    (cells : fillings.map Filling.cell = values.map fun entry => (place entry.1, entry.2))
    {before : List Value}
    (binds : boundValues scene.parameters = before ++ fillings.map Filling.value) :
    scene.LeadsTo (wording.insertion fillings before.length) (Engine.fileName wording.table) table
      (table.Created (newCell descriptor place values)) := by
  have resolved := resolve_fillings fits payloadFits ⟨[], by rw [binds, List.append_nil]⟩
  rw [named] at resolved
  have created := Scene.leadsTo_created sound found (by simp) resolved
  have cell : (fun column => (Engine.lastValue? (fillings.map Filling.cell ++
      [(payload.place, .bytes [])]) column).getD .null) = newCell descriptor place values := by
    funext column
    rw [placed, cells]
    exact lastValue?_listed values column
  rwa [cell] at created

/-- The statement that empties payloads leads to the table with them emptied. -/
theorem leadsTo_emptying (sound : table.Sound) (found : scene.table wording.table = .ok table)
    (tells : scene.Tells table wording.condition matching) (payloadFits : payload.Fits table)
    (named : payload.name = wording.payload) :
    scene.LeadsTo wording.emptying (Engine.fileName wording.table) table fun answer after =>
      table.Emptied after matching payload.place ∧
        answer = .ok (table.rows.countP matching) := by
  exact Scene.leadsTo_emptied sound found tells (named ▸ payloadFits.columnIndex)
    payloadFits.inside

/-- Truncating leads to what it says: where no row matches, it asks and changes nothing. -/
theorem leadsTo_truncate (sound : table.Sound) (found : scene.table wording.table = .ok table)
    (tells : scene.Tells table wording.condition matching) (payloadFits : payload.Fits table)
    (named : payload.name = wording.payload) (cell : Nat → Value) :
    scene.LeadsTo (.conditional false wording.probe wording.emptying)
      (Engine.fileName wording.table) table
      (Prepared .truncate table matching payload.place cell) := by
  have ran := Scene.run_conditional found tells false wording.emptying
  have emptying := leadsTo_emptying wording sound found tells payloadFits named
  cases matched : table.rows.any matching with
  | true =>
    rw [matched, if_neg (by decide)] at ran
    exact emptying.of_run_eq ran
  | false =>
    rw [matched, if_pos rfl] at ran
    have none : ∀ row ∈ table.rows, matching row = false := by simpa using matched
    have count : table.rows.countP matching = 0 := by simpa using none
    have unchanged := sound.emptied matching payloadFits.inside
    rw [Engine.Table.emptied_of_none payload.place none] at unchanged
    exact Scene.leadsTo_same ran ⟨unchanged, by rw [count]⟩

/-- Inserting the row if none matches, and emptying the payloads otherwise, leads to what it
says. -/
theorem leadsTo_create {insertion : Statement} {cell : Nat → Value} (sound : table.Sound)
    (found : scene.table wording.table = .ok table)
    (tells : scene.Tells table wording.condition matching) (payloadFits : payload.Fits table)
    (named : payload.name = wording.payload)
    (inserts : scene.LeadsTo insertion (Engine.fileName wording.table) table
      (table.Created cell)) :
    scene.LeadsTo (.branch true wording.probe insertion wording.emptying)
      (Engine.fileName wording.table) table
      (Prepared .create table matching payload.place cell) := by
  have ran := Scene.run_branch found tells true insertion wording.emptying
  have emptying := leadsTo_emptying wording sound found tells payloadFits named
  cases matched : table.rows.any matching with
  | true =>
    rw [matched, if_pos rfl] at ran
    apply (emptying.of_run_eq ran).mono
    intro answer after emptied
    rw [Prepared, matched]
    exact emptied
  | false =>
    rw [matched, if_neg (by decide)] at ran
    apply (inserts.of_run_eq ran).mono
    intro answer after created
    rw [Prepared, matched]
    exact created

/-- Inserting the row if none matches leads to what it says. -/
theorem leadsTo_openOrCreate {insertion : Statement} {cell : Nat → Value}
    (found : scene.table wording.table = .ok table)
    (tells : scene.Tells table wording.condition matching) (column : Nat)
    (inserts : scene.LeadsTo insertion (Engine.fileName wording.table) table
      (table.Created cell)) :
    scene.LeadsTo (.conditional true wording.probe insertion) (Engine.fileName wording.table)
      table (Prepared .openOrCreate table matching column cell) := by
  have ran := Scene.run_conditional found tells true insertion
  cases matched : table.rows.any matching with
  | true =>
    rw [matched, if_pos rfl] at ran
    apply Scene.leadsTo_same ran
    simp only [Prepared, matched, if_true, and_self]
  | false =>
    rw [matched, if_neg (by decide)] at ran
    apply (inserts.of_run_eq ran).mono
    intro answer after created
    rw [Prepared, matched]
    exact created

/-- The statement of a mode leads to what the mode says. -/
theorem leadsTo_statement (sound : table.Sound) (found : scene.table wording.table = .ok table)
    (tells : boundValues filter.parameters <+: boundValues scene.parameters →
      scene.Tells table wording.condition matching)
    {fillings : List Filling} (fits : ∀ filling ∈ fillings, filling.Fits table)
    (payloadFits : payload.Fits table) (named : payload.name = wording.payload)
    (placed : payload.place = place descriptor.payload) {values : List (String × Value)}
    (cells : fillings.map Filling.cell = values.map fun entry => (place entry.1, entry.2))
    {mode : OpenMode} {statement : Statement}
    (known : wording.statement? fillings mode = some statement)
    (binds : boundValues scene.parameters = Wording.values filter fillings mode) :
    scene.LeadsTo statement (Engine.fileName wording.table) table
      (Prepared mode table matching payload.place (newCell descriptor place values)) := by
  have inserts (before : List Value)
      (follows : boundValues scene.parameters = before ++ fillings.map Filling.value) :=
    leadsTo_insertion wording sound found fits payloadFits named placed cells follows
  have goesOn (follows : boundValues scene.parameters =
        boundValues filter.parameters ++ fillings.map Filling.value) :
      boundValues filter.parameters <+: boundValues scene.parameters :=
    ⟨_, follows.symm⟩
  have filterLength : (boundValues filter.parameters).length = filter.parameters.length :=
    List.length_map _
  cases mode with
  | openExisting => cases known
  | append => cases known
  | truncate =>
    cases known
    have sameValues : boundValues filter.parameters <+: boundValues scene.parameters :=
      ⟨[], by rw [binds, List.append_nil]; rfl⟩
    exact leadsTo_truncate wording sound found (tells sameValues) payloadFits named _
  | createNew =>
    cases known
    exact inserts [] binds
  | create =>
    cases known
    have inserted := inserts _ binds
    rw [filterLength] at inserted
    exact leadsTo_create wording sound found (tells (goesOn binds)) payloadFits named inserted
  | openOrCreate =>
    cases known
    have inserted := inserts _ binds
    rw [filterLength] at inserted
    exact leadsTo_openOrCreate wording found (tells (goesOn binds)) _ inserted

end

/-- A descriptor whose table is read as a name and whose columns are those of a table, with a
filter that compiles, has its wording: the payload fits, and the condition evaluates on every
row to the truth value of the filter, with parameters that start with the filter's. -/
theorem exists_wording {name : List Token} {parts : List String}
    (tableRead : tokenize descriptor.table = .ok name) (isTable : Sql.IsName name parts)
    (stored : ∀ property, descriptor.columns.contains property = true →
      descriptor.StoredAt table property (place property))
    {predicate : Predicate ε} (boolean : predicate.IsBoolean) {start afterFilter : ε}
    (compiled : (predicate.compile descriptor).perform start = (.ok filter, afterFilter))
    (few : filter.parameters.length ≤ Placeholder.ordinalBound) :
    ∃ wording : Wording descriptor filter, wording.table = ".".intercalate parts ∧
      Filling.Fits table ⟨wording.payload, place descriptor.payload, .bytes []⟩ ∧
      ∀ row parameters, boundValues filter.parameters <+: boundValues parameters →
        Engine.passes parameters table (some wording.condition) row =
          .ok ((predicate.truth (Predicate.cells place row)).run start).1 := by
  have filterStored : ∀ property ∈ predicate.properties,
      descriptor.StoredAt table property (place property) := fun property member =>
    stored property (Predicate.mapped_of_compile compiled property member)
  obtain ⟨-, filterTokens, condition, filterRead, isFilter, evaluated⟩ :=
    Predicate.compile_renders boolean filterStored compiled few
  have payloadMapped : descriptor.columns.contains descriptor.payload = true := by
    rw [OrderedMap.contains, descriptor.payload_mapped, Option.isSome_some]
  obtain ⟨payload, known, closed, found⟩ := stored descriptor.payload payloadMapped
  have bracketed : descriptor.payloadColumn = "[" ++ payload ++ "]" := by
    rw [descriptor.payload_mapped] at known
    exact Option.some.inj known
  refine ⟨⟨name, parts, tableRead, isTable, payload, bracketed, closed, filterTokens, condition,
    filterRead, isFilter⟩, rfl, ⟨closed, found⟩, fun row parameters goesOn => ?_⟩
  obtain ⟨holding, truth, passes⟩ := evaluated row parameters goesOn
  dsimp only at truth
  rw [truth]
  exact passes

/-- **The statement of a mode does what the mode says.** Take a descriptor whose table is read
as the name of a table that a connection sees, and whose columns are bracketed columns of that
table, a filter built from equalities that compiles, and a new row whose properties are mapped.
Then the statement of the mode is parsed, and executing it leads to what the mode says: the
payloads of the rows that match are emptied, or the new row is inserted, and nothing else has
changed. The filter matches by its own truth value, found with the values it was compiled
with. A place among the parameters is a machine word, so there are no more of them than words. -/
theorem lifecycle_statement_prepares {server : Server} (reached : server.Reachable) {id : Nat}
    (alive : server.connection id ≠ .closed)
    {name : List Token} {parts : List String}
    (tableRead : tokenize descriptor.table = .ok name) (isTable : Sql.IsName name parts)
    (seen : server.view id (Engine.fileName (".".intercalate parts)) = some table)
    (stored : ∀ property, descriptor.columns.contains property = true →
      descriptor.StoredAt table property (place property))
    {predicate : Predicate ε} (boolean : predicate.IsBoolean) {start afterFilter : ε}
    (compiled : (predicate.compile descriptor).perform start = (.ok filter, afterFilter))
    {row : NewRow ε}
    (mapped : ∀ property ∈ row.properties, descriptor.columns.contains property = true)
    (few : filter.parameters.length + row.properties.length ≤ Placeholder.ordinalBound)
    {mode : OpenMode} (prepares : mode = .truncate ∨ mode.createsRow = true)
    {offered : Option (NewRow ε)} (given : mode.createsRow = true → offered = some row)
    (surroundings : ε) :
    ∃ written afterWriting statement,
      (command descriptor mode filter offered).perform surroundings =
        (.ok (some written), afterWriting) ∧
      Sql.parse written.sql = .ok statement ∧
      ∃ after, Prepared mode table
          (fun row => ((predicate.truth (Predicate.cells place row)).run start).1)
          (place descriptor.payload)
          (newCell descriptor place ((listed descriptor row.values.entries).run surroundings).1)
          (server.execute id written).1 after ∧
        server.TableChanged (server.execute id written).2 id
          (Engine.fileName (".".intercalate parts)) after := by
  obtain ⟨wording, named, payloadFits, evaluated⟩ :=
    exists_wording tableRead isTable stored boolean compiled (by omega)
  rw [← named] at seen ⊢
  have mappedEntries : ∀ entry ∈ row.values.entries,
      descriptor.columns.contains entry.1 = true := fun entry member =>
    mapped entry.1 (List.mem_map_of_mem member)
  obtain ⟨fillings, bound, fits, fewFillings, cells⟩ :=
    boundColumns_fillings stored mappedEntries surroundings
  have closed : ∀ filling ∈ fillings, ']' ∉ filling.name.toList := fun filling member =>
    (fits filling member).1
  have sameLength : row.properties.length = row.values.entries.length := List.length_map _
  obtain ⟨statement, known⟩ : ∃ statement, wording.statement? fillings mode = some statement := by
    cases mode with
    | openExisting => rcases prepares with equal | creates <;> contradiction
    | append => rcases prepares with equal | creates <;> contradiction
    | truncate | createNew | create | openOrCreate => exact ⟨_, rfl⟩
  obtain ⟨written, afterWriting, performed, parsed, binds⟩ :=
    wording.command_ok bound closed (by omega) known given
  refine ⟨written, afterWriting, statement, performed, parsed, ?_⟩
  apply Server.execute_leadsTo alive parsed seen
  have sameParameters := Server.parameters_scene server (server.connection id) written.parameters
  apply leadsTo_statement wording (reached.sound.of_view seen) (Server.table_of_view seen _) ?_
    fits payloadFits rfl rfl cells known (by rw [sameParameters, binds])
  intro goesOn tableRow _
  exact evaluated tableRow _ goesOn

/-- Creating the recording with the number 7 prepares a row for its sound. -/
theorem lifecycle_statement_prepares_recording :
    ∃ written afterWriting statement,
      (command Sample.descriptor .create
          ⟨"([Id] = @p0)", [⟨0, "@p0", some "[Id]", some .int, .int 7⟩]⟩
          (some Sample.recording)).perform () = (.ok (some written), afterWriting) ∧
      Sql.parse written.sql = .ok statement ∧
      ∃ after, Prepared .create Sample.table
          (fun row => ((Predicate.truth (Predicate.cells Sample.place row)
            (Sample.seventh : Predicate Unit)).run ()).1)
          2 (newCell Sample.descriptor Sample.place [("id", .int 7), ("title", .text "Dawn")])
          (Sample.connected.execute 0 written).1 after ∧
        Sample.connected.TableChanged (Sample.connected.execute 0 written).2 0
          (Engine.fileName (".".intercalate ["Recordings"])) after := by
  have reached : Sample.connected.Reachable :=
    .serve (.serve (.start [1, 2, 3]) (.createTable Sample.table rfl)) (.connect Sample.settings)
  have alive : Sample.connected.connection 0 ≠ .closed := by
    have ready : Sample.connected.connection 0 = .ready := rfl
    rw [ready]
    exact nofun
  have read : tokenize Sample.descriptor.table = .ok [.word "Recordings"] := by
    cbv
  have isTable : Sql.IsName [.word "Recordings"] ["Recordings"] :=
    .last (.word "Recordings")
  have seen : Sample.connected.view 0 (Engine.fileName (".".intercalate ["Recordings"])) =
      some Sample.table := by
    rfl
  have stored : ∀ property, Sample.descriptor.columns.contains property = true →
      Sample.descriptor.StoredAt Sample.table property (Sample.place property) := by
    intro property contained
    have listed : property ∈ ["id", "title", "sound"] := by
      apply Decidable.byContradiction
      intro absent
      have missing : Sample.descriptor.columns.get? property = none :=
        OrderedMap.find?_eq_none absent
      rw [OrderedMap.contains, missing] at contained
      cases contained
    have properties : property = "id" ∨ property = "title" ∨ property = "sound" := by
      simpa using listed
    rcases properties with rfl | rfl | rfl
    · exact ⟨"Id", by decide, by decide, by decide⟩
    · exact ⟨"Title", by decide, by decide, by decide⟩
    · exact ⟨"Sound", by decide, by decide, by decide⟩
  have boolean : (Sample.seventh : Predicate Unit).IsBoolean := .equal (.column _) (.value _)
  have compiled : ((Sample.seventh : Predicate Unit).compile Sample.descriptor).perform () =
      (.ok ⟨"([Id] = @p0)", [⟨0, "@p0", some "[Id]", some .int, .int 7⟩]⟩, ()) := by
    rfl
  have mapped : ∀ property ∈ (Sample.recording : NewRow Unit).properties,
      Sample.descriptor.columns.contains property = true := by
    decide
  have creates : OpenMode.create.createsRow = true := rfl
  have prepared := lifecycle_statement_prepares reached alive read isTable seen stored boolean
    compiled mapped (by decide) (.inr creates) (fun _ => rfl) ()
  exact prepared

end RowPayload.Lifecycle
