import RowPayload.Proofs.Engine.Writers
import RowPayload.Proofs.Lifecycle.Effect
import RowPayload.Proofs.Lifecycle.Showing

/-!
# What a record's row stores

Where the fields of a schema have columns of their own in a table, the statement that inserts a
record stores the value of each field in the column of the field, and what the query for the
handle shows of the row is the record that the setters make of these values. Inserting and showing
meet in what a row holds of a record, cell by cell.
-/

namespace RowPayload

open Engine Lifecycle Sql

variable {ε ρ : Type}

/-! ## Fields with columns of their own -/

/-- The fields of a schema have names and columns of their own: every field is mapped, no column
is that of two fields, or of a field and the payload, whatever the case of its letters, and every
column but that of the payload has a name. -/
structure Descriptor.Separates (descriptor : Descriptor) (schema : Schema ρ) : Prop where
  distinct : (schema.fields.map Field.name).Nodup
  mapped : ∀ field ∈ schema.fields, descriptor.columns.contains field.name = true
  apart : ∀ field ∈ schema.fields, ∀ property ∈ descriptor.payload :: schema.fields.map Field.name,
    property ≠ field.name → ∀ column ∈ descriptor.columns.get? field.name,
      ∀ other ∈ descriptor.columns.get? property, Text.sameLetters column other = false
  named : ∀ field ∈ schema.fields, field.name ≠ descriptor.payload →
    descriptor.columns.get? field.name ≠ some "[]"

/-- A row holds the values of a record in the columns of its fields, but for the payload. -/
def Descriptor.Layout.Holds {descriptor : Descriptor} {table : Table}
    (layout : descriptor.Layout table) (schema : Schema ρ) (record : ρ) (row : TableRow) : Prop :=
  ∀ field ∈ schema.fields, field.name ≠ descriptor.payload →
    row.cell (layout.place field.name) = field.get record

section

variable {descriptor : Descriptor} {schema : Schema ρ} {table : Table}

/-- Names with the same letters have the same letters in brackets. -/
theorem Text.sameLetters_enclosed {name other : String}
    (same : Text.sameLetters name other = true) :
    Text.sameLetters ("[" ++ name ++ "]") ("[" ++ other ++ "]") = true := by
  have letters : Text.lower name.toList = Text.lower other.toList := eq_of_beq same
  refine beq_iff_eq.2 ?_
  simp only [String.toList_append, Text.lower, List.map_append] at letters ⊢
  rw [letters]

/-- Properties whose columns differ have places of their own. -/
theorem Descriptor.Layout.place_ne (layout : descriptor.Layout table) {property other : String}
    {column another : String} (mapped : descriptor.columns.get? property = some column)
    (mappedOther : descriptor.columns.get? other = some another)
    (apart : Text.sameLetters column another = false) :
    layout.place property ≠ layout.place other := by
  intro same
  obtain ⟨name, known, -, -, letters⟩ := (layout.stored_of_get? mapped).named
  obtain ⟨otherName, knownOther, -, -, otherLetters⟩ := (layout.stored_of_get? mappedOther).named
  rw [mapped] at known
  rw [mappedOther] at knownOther
  cases known
  cases knownOther
  rw [← same] at otherLetters
  have equal : Text.sameLetters name otherName = true :=
    beq_iff_eq.2 ((eq_of_beq letters).symm.trans (eq_of_beq otherLetters))
  rw [Text.sameLetters_enclosed equal] at apart
  cases apart

namespace Descriptor.Separates

variable (separates : descriptor.Separates schema) (layout : descriptor.Layout table)
include separates

/-- A field has a place of its own. -/
theorem place_ne {field : Field ρ} (member : field ∈ schema.fields) {property : String}
    (inside : property ∈ descriptor.payload :: schema.fields.map Field.name)
    (other : property ≠ field.name) : layout.place property ≠ layout.place field.name := by
  obtain ⟨column, known⟩ := Option.isSome_iff_exists.1 (separates.mapped field member)
  obtain ⟨another, knownOther⟩ : ∃ another, descriptor.columns.get? property = some another := by
    rcases List.mem_cons.1 inside with rfl | isField
    · exact ⟨_, descriptor.payload_mapped⟩
    · obtain ⟨owner, memberOther, rfl⟩ := List.mem_map.1 isField
      exact Option.isSome_iff_exists.1 (separates.mapped owner memberOther)
  exact (layout.place_ne known knownOther
    (separates.apart field member property inside other column known another knownOther)).symm

/-- **The record is read from the row** that holds it, as its setters make it. -/
theorem record_shown {row : TableRow} {original record : ρ} {value : Field ρ → Value}
    (holds : layout.Holds schema original row)
    (reads : ∀ field ∈ schema.fields, field.name ≠ descriptor.payload →
      ∃ column, field.type.read column (field.get original) = .ok (value field))
    (filled : schema.filled descriptor.payload value = .ok record) (token : Bytes) :
    Materialize.record schema descriptor [descriptor.payload]
      ⟨layout.names, layout.values token row⟩ = .ok record := by
  refine Materialize.record_of_source (fun field member other => ?_) filled
  obtain ⟨column, known⟩ := Option.isSome_iff_exists.1 (separates.mapped field member)
  obtain ⟨anywhere, read⟩ := reads field member other
  have named : column ≠ "[]" := by
    rintro rfl
    exact separates.named field member other known
  refine ⟨Bracket.strip column, field.get original, ?_, FieldType.read_of_read read _⟩
  rw [Materialize.source?, if_neg (by simpa using other), known, Option.bind_eq_bind,
    Option.bind_some]
  dsimp only
  rw [layout.value?_shown token row known other named, holds field member other]
  rfl

end Descriptor.Separates

/-! ## New rows of records -/

/-- The values of a record by the names of its fields, but for the payload. -/
def Schema.listing (schema : Schema ρ) (payload : String) (record : ρ) : List (String × Value) :=
  (schema.fields.filter fun field => field.name ≠ payload).map fun field =>
    (field.name, field.get record)

/-- A field that is not the payload is in the listing of a record. -/
theorem Schema.mem_listing {payload : String} {record : ρ} {field : Field ρ}
    (member : field ∈ schema.fields) (other : field.name ≠ payload) :
    (field.name, field.get record) ∈ schema.listing payload record :=
  List.mem_map.2 ⟨field, List.mem_filter.2 ⟨member, by simpa using other⟩, rfl⟩

/-- The new row of a record lists the values of its fields. -/
theorem Lifecycle.listed_ofRecord (distinct : (schema.fields.map Field.name).Nodup) (record : ρ)
    (surroundings : ε) :
    ((listed descriptor (NewRow.ofRecord schema record : NewRow ε).values.entries).run
      surroundings).1 = schema.listing descriptor.payload record := by
  rw [NewRow.entries_ofRecord distinct, Schema.listing]
  induction schema.fields with
  | nil => rfl
  | cons first rest inductionHypothesis =>
    rw [List.map_cons, listed]
    by_cases payload : first.name = descriptor.payload
    · rw [if_pos payload, inductionHypothesis, List.filter_cons_of_neg (by simpa using payload)]
    · rw [if_neg payload, List.filter_cons_of_pos (by simpa using payload), List.map_cons,
        ← inductionHypothesis]
      rfl

/-- The new row of a record has the value of a field in the column of the field. -/
theorem Descriptor.Separates.newCell_field (separates : descriptor.Separates schema)
    (layout : descriptor.Layout table) (record : ρ) {field : Field ρ}
    (member : field ∈ schema.fields) (other : field.name ≠ descriptor.payload) :
    newCell descriptor layout.place (schema.listing descriptor.payload record)
      (layout.place field.name) = field.get record := by
  have ownPlace := separates.place_ne layout member List.mem_cons_self (Ne.symm other)
  rw [newCell, if_neg (Ne.symm ownPlace)]
  -- An entry with the place is the field's, for no other field has it.
  have only : ∀ entry ∈ schema.listing descriptor.payload record,
      layout.place entry.1 = layout.place field.name → entry.2 = field.get record := by
    intro entry listed same
    obtain ⟨owner, kept, rfl⟩ := List.mem_map.1 listed
    have memberOwner := (List.mem_filter.1 kept).1
    have sameName : owner.name = field.name := by
      by_contra different
      exact separates.place_ne layout member
        (List.mem_cons_of_mem _ (List.mem_map_of_mem memberOwner)) different same
    rw [List.inj_on_of_nodup_map separates.distinct memberOwner member sameName]
  have listed : (field.name, field.get record) ∈
      (schema.listing descriptor.payload record).reverse :=
    List.mem_reverse.2 (Schema.mem_listing member other)
  cases found : (schema.listing descriptor.payload record).reverse.find? fun entry =>
      layout.place entry.1 == layout.place field.name with
  | none => exact absurd (beq_self_eq_true _) (List.find?_eq_none.1 found _ listed)
  | some entry =>
    have same := List.find?_some found
    exact only entry (List.mem_reverse.1 (List.mem_of_find?_eq_some found)) (eq_of_beq same)

/-- A property that is mapped has its place among the columns. -/
theorem Descriptor.Layout.inside (layout : descriptor.Layout table) {property : String}
    (mapped : descriptor.columns.contains property = true) :
    layout.place property < table.columns.length := by
  obtain ⟨_, -, -, found⟩ := layout.stored property mapped
  exact (List.findIdx?_eq_some_iff_getElem.1 found).1

/-- The row that inserting a record adds to a table. -/
def Descriptor.Layout.rowOf (layout : descriptor.Layout table) (schema : Schema ρ) (record : ρ) :
    TableRow :=
  table.rowOf (newCell descriptor layout.place (schema.listing descriptor.payload record))

/-- The row of a record holds it, with an empty payload. -/
theorem Descriptor.Separates.holds_rowOf (separates : descriptor.Separates schema)
    (layout : descriptor.Layout table) (record : ρ) :
    layout.Holds schema record (layout.rowOf schema record) ∧
      (layout.rowOf schema record).cell (layout.place descriptor.payload) = .bytes [] := by
  have payload : descriptor.columns.contains descriptor.payload = true :=
    OrderedMap.contains_of_get? descriptor.payload_mapped
  constructor
  · intro field member other
    rw [Layout.rowOf, Table.cell_rowOf table _ (layout.inside (separates.mapped field member))]
    exact separates.newCell_field layout record member other
  · rw [Layout.rowOf, Table.cell_rowOf table _ (layout.inside payload), newCell, if_pos rfl]

end

/-! ## Inserting a row -/

section

variable {descriptor : Descriptor} {table : Table} (layout : descriptor.Layout table)

/-- The column of a property is its name in brackets, and fits its place. -/
theorem Descriptor.Layout.fits {property column : String}
    (mapped : descriptor.columns.get? property = some column) (value : Value) :
    column = "[" ++ Bracket.strip column ++ "]" ∧
      Filling.Fits table ⟨Bracket.strip column, layout.place property, value⟩ := by
  obtain ⟨name, known, closed, found⟩ := layout.stored_of_get? mapped
  rw [mapped] at known
  cases known
  rw [Bracket.strip_enclosed]
  exact ⟨rfl, closed, found⟩

/-- The wording of a layout, with a condition that every row meets: what inserts a row whatever
exists has none. -/
def Descriptor.Layout.wording : Wording descriptor ⟨"1 = 1", []⟩ where
  tableTokens := layout.tableTokens
  tableParts := layout.tableParts
  table_read := layout.table_read
  table_spelled := layout.table_spelled
  payload := Bracket.strip descriptor.payloadColumn
  payload_bracketed := (layout.fits descriptor.payload_mapped .null).1
  payload_closed := (layout.fits descriptor.payload_mapped .null).2.1
  filterTokens := [.number 1, .equals, .number 1]
  condition := .equal (.integer 1) (.integer 1)
  filter_read := by cbv
  filter_spelled := .equal (.integer 1) (.integer 1)

/-- The command that inserts a row, if its text has a tree, is read as the insertion and binds the
values of the row, for it then has no more of them than machine words. -/
theorem Descriptor.Layout.createNew_parse {row : NewRow ε}
    (mapped : ∀ entry ∈ row.values.entries, descriptor.columns.contains entry.1 = true)
    {surroundings later : ε} {written : Command}
    (performed : (createNew descriptor row).perform surroundings = (.ok written, later))
    {statement : Statement} (parsed : parse written.sql = .ok statement) :
    ∃ fillings : List Filling, (∀ filling ∈ fillings, filling.Fits table) ∧
      fillings.map Filling.cell = ((listed descriptor row.values.entries).run surroundings).1.map
        (fun entry => (layout.place entry.1, entry.2)) ∧
      statement = layout.wording.insertion fillings 0 ∧
      boundValues written.parameters = fillings.map Filling.value := by
  obtain ⟨fillings, bound, fits, -, cells⟩ :=
    boundColumns_fillings layout.stored mapped surroundings
  have closed : ∀ filling ∈ fillings, ']' ∉ filling.name.toList := fun filling member =>
    (fits filling member).1
  have composed : written = (inserted descriptor .empty (fillings.map Filling.entry)).build := by
    rw [createNew, Work.perform_bind, perform_insert, bound] at performed
    cases performed
    rfl
  have columnsRead := layout.wording.columns_read closed
  have columns : (fillings.map Filling.entry).map Prod.fst =
      fillings.map fun filling => filling.entry.1 := List.map_map
  rw [← columns] at columnsRead
  have few : fillings.length ≤ Placeholder.ordinalBound := by
    cases read : tokens written.sql.toList with
    | error fault =>
      rw [parse, tokenize, read] at parsed
      cases parsed
    | ok found =>
      rw [composed, ← List.append_nil (String.toList _)] at read
      have emptySealed : Sealed CommandBuilder.empty.build.sql [] := sealed_empty
      have small := layout.wording.texts.small_of_tokens_inserted emptySealed columnsRead read
      cases fillings with
      | nil => exact Nat.zero_le _
      | cons first rest =>
        have last := small rest.length (by simp)
        simp only [CommandBuilder.empty, List.length_nil] at last
        rw [List.length_cons]
        omega
  obtain ⟨command, ran, reads, binds⟩ := layout.wording.createNew_ok bound closed few
  rw [performed] at ran
  cases ran
  rw [parsed] at reads
  exact ⟨fillings, fits, cells, Except.ok.inj reads, binds⟩

/-- **What inserts a row adds it**: it is the next row of the table, has the values of the new row
in their columns, an empty payload and nulls, and nothing else has changed. -/
theorem Descriptor.Layout.createNew_adds {row : NewRow ε}
    (mapped : ∀ entry ∈ row.values.entries, descriptor.columns.contains entry.1 = true)
    {surroundings later : ε} {written : Command}
    (performed : (createNew descriptor row).perform surroundings = (.ok written, later))
    {server after : Server} {id count : Nat} (sound : server.Sound)
    (seen : server.view id layout.file = some table)
    (executed : server.execute id written = (.ok count, after)) :
    server.TableChanged after id layout.file (table.append (table.rowOf (newCell descriptor
      layout.place ((listed descriptor row.values.entries).run surroundings).1)).values) := by
  obtain ⟨statement, _, alive, parsed, -, -⟩ := Server.execute_cases executed
  obtain ⟨fillings, fits, cells, rfl, binds⟩ := layout.createNew_parse mapped performed parsed
  have bindsAll : boundValues (server.scene (server.connection id)
      written.parameters).parameters = [] ++ fillings.map Filling.value := by
    rw [Server.parameters_scene]
    exact binds
  have leads := leadsTo_insertion layout.wording (sound.of_view seen)
    (Server.table_of_view seen written.parameters) fits
    (layout.fits descriptor.payload_mapped (.bytes [])).2 rfl rfl cells bindsAll
  obtain ⟨grown, created, changed⟩ := Server.execute_leadsTo alive parsed seen leads
  rw [executed] at created changed
  cases created
  exact changed

end

end RowPayload
