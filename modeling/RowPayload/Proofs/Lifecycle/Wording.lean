import RowPayload.Proofs.Lifecycle.Building

/-!
# The wording of lifecycle statements

A lifecycle statement is put together from the table's name, the bracketed columns, the
compiled filter and the placeholders of a new row. As long as each of these is read as what
it is, the whole is read as one statement: a question, an insertion, an update, or an
insertion and an update for either answer to a question.
-/

namespace RowPayload.Lifecycle

open Sql

variable {ε : Type} {descriptor : Descriptor} {filter : Clause}

/-- How the texts that lifecycle statements are made of are read. -/
structure Wording (descriptor : Descriptor) (filter : Clause) where
  tableTokens : List Token
  tableParts : List String
  table_read : tokenize descriptor.table = .ok tableTokens
  table_spelled : IsName tableTokens tableParts
  payload : String
  payload_bracketed : descriptor.payloadColumn = "[" ++ payload ++ "]"
  payload_closed : ']' ∉ payload.toList
  filterTokens : List Token
  condition : Condition
  filter_read : tokenize filter.sql = .ok filterTokens
  filter_spelled : IsCondition .atom filterTokens condition

namespace Wording

/-! ## Questions and updates -/

/-- The name of the table, as the engine looks it up. -/
def table (wording : Wording descriptor filter) : String := ".".intercalate wording.tableParts

/-- The selection of the rows that match. -/
def probe (wording : Wording descriptor filter) : Select :=
  ⟨[.one], wording.table, some wording.condition⟩

/-- The statement that empties the payloads of the rows that match. -/
def emptying (wording : Wording descriptor filter) : Statement :=
  .update wording.table [(wording.payload, .binary [])] (some wording.condition)

/-- The tokens of the condition that a row matches. -/
def filterClause (wording : Wording descriptor filter) : List Token :=
  .word "WHERE" :: wording.filterTokens

/-- The tokens of the selection of the rows that match. -/
def probeTokens (wording : Wording descriptor filter) : List Token :=
  .number 1 :: .word "FROM" :: (wording.tableTokens ++ wording.filterClause)

/-- The tokens of the statement that empties payloads. -/
def emptyingTokens (wording : Wording descriptor filter) : List Token :=
  .word "UPDATE" :: (wording.tableTokens ++ .word "SET" ::
    (.quoted wording.payload :: .equals :: .hex [] :: wording.filterClause))

variable (wording : Wording descriptor filter)

/-- The condition that a row matches is a filter. -/
theorem filterClause_spelled : IsFilter wording.filterClause (some wording.condition) :=
  .present (by cbv) (.oneConjunction (.oneAtom wording.filter_spelled))

/-- The selection of the rows that match is one. -/
theorem probe_spelled : IsSelection wording.probeTokens wording.probe :=
  .mk (.last .one) (by cbv) wording.table_spelled wording.filterClause_spelled

/-- The statement that empties payloads is an update. -/
theorem emptying_spelled : IsStatement wording.emptyingTokens wording.emptying := by
  have isColumn : IsColumn [.quoted wording.payload] wording.payload :=
    .ofName (.last (.quoted _))
  exact .update (by cbv) wording.table_spelled (by cbv) (.last (.mk isColumn (.binary [])))
    wording.filterClause_spelled

/-- The payload column is one token. -/
theorem payload_read : tokenize descriptor.payloadColumn = .ok [.quoted wording.payload] := by
  rw [wording.payload_bracketed]
  exact tokenize_bracketed wording.payload_closed

/-- The texts that statements are made of. -/
def texts : Texts descriptor filter :=
  ⟨wording.tableTokens, wording.table_read, [.quoted wording.payload], wording.payload_read,
    wording.filterTokens, wording.filter_read⟩

/-- The text of the statement that empties payloads is read as it. -/
theorem emptying_read :
    tokenize (emptyPayload descriptor filter) = .ok wording.emptyingTokens :=
  wording.texts.emptying_read

/-! ## Insertions -/

end Wording

/-- A column of a row about to be inserted: its name, its place in the table and the value
it gets. -/
structure Filling where
  name : String
  place : Nat
  value : Value

/-- The column as the descriptor writes it, and its value. -/
def Filling.entry (filling : Filling) : String × Value :=
  ("[" ++ filling.name ++ "]", filling.value)

namespace Wording

/-- The statement that inserts a row, whose values are bound from an ordinal on. -/
def insertion (wording : Wording descriptor filter) (fillings : List Filling) (first : Nat) :
    Statement :=
  .insert wording.table (fillings.map Filling.name ++ [wording.payload])
    ((List.range' first fillings.length).map .parameter ++ [.binary []])

/-- The tokens of the columns of an insertion. -/
def columnTokens (wording : Wording descriptor filter) (fillings : List Filling) : List Token :=
  listTokens (fun filling => .quoted filling.name) fillings (.quoted wording.payload)

/-- The tokens of the statement that inserts a row. -/
def insertionTokens (wording : Wording descriptor filter) (fillings : List Filling)
    (first : Nat) : List Token :=
  .word "INSERT" :: .word "INTO" :: (wording.tableTokens ++ .leftParen ::
    (wording.columnTokens fillings ++ .rightParen :: .word "VALUES" :: .leftParen ::
      (listTokens .parameter (List.range' first fillings.length) (.hex []) ++ [.rightParen])))

variable (wording : Wording descriptor filter)

/-- The statement that inserts a row is an insertion. -/
theorem insertion_spelled (fillings : List Filling) (first : Nat) :
    IsStatement (wording.insertionTokens fillings first) (wording.insertion fillings first) := by
  have columns : IsList IsColumn (wording.columnTokens fillings)
      (fillings.map Filling.name ++ [wording.payload]) :=
    listTokens_spelled (fun filling => .ofName (.last (.quoted filling.name)))
      (.ofName (.last (.quoted wording.payload))) fillings
  have places : IsList IsOperand (listTokens .parameter (List.range' first fillings.length)
      (.hex [])) ((List.range' first fillings.length).map .parameter ++ [.binary []]) :=
    listTokens_spelled .parameter (.binary []) _
  exact .insert (by cbv) (by cbv) wording.table_spelled columns (by cbv) places

/-- The columns of an insertion are read as their names. -/
theorem columns_read {fillings : List Filling}
    (closed : ∀ filling ∈ fillings, ']' ∉ filling.name.toList) :
    tokenize (", ".intercalate (fillings.map (fun filling => filling.entry.1) ++
      [descriptor.payloadColumn])) = .ok (wording.columnTokens fillings) := by
  induction fillings with
  | nil =>
    rw [List.map_nil, List.nil_append, String.intercalate_singleton]
    exact wording.payload_read
  | cons first rest inductionHypothesis =>
    have column : tokenize first.entry.1 = .ok [.quoted first.name] :=
      tokenize_bracketed (closed first (by simp))
    have commaSealed : Sealed ", " [.comma] := sealed_of_blank "," rfl (by cbv)
    have following := inductionHypothesis fun filling member => closed filling (by simp [member])
    have whole := (commaSealed.close (by decide) rfl column).tokenize_append following
    rw [List.map_cons, List.cons_append, String.intercalate_cons_of_ne_nil (by simp)]
    exact whole

end Wording

/-- What inserting a row has done: its text follows what is written already, and its values
follow what is bound already. -/
theorem insert_ok (wording : Wording descriptor filter) {builder : CommandBuilder}
    {row : NewRow ε} {surroundings after : ε} {fillings : List Filling} {before : List Token}
    (bound : (boundColumns descriptor row.values.entries).perform surroundings =
      (.ok (fillings.map Filling.entry), after))
    (closed : ∀ filling ∈ fillings, ']' ∉ filling.name.toList)
    (sealedBuilder : Sealed builder.build.sql before)
    (few : builder.parameters.length + fillings.length ≤ Placeholder.ordinalBound) :
    ∃ inserted, (insert descriptor builder row).perform surroundings = (.ok inserted, after) ∧
      Sealed inserted.build.sql
        (before ++ wording.insertionTokens fillings builder.parameters.length) ∧
      boundValues inserted.parameters =
        boundValues builder.parameters ++ fillings.map Filling.value := by
  have columnsRead := wording.columns_read closed
  have columns : (fillings.map Filling.entry).map Prod.fst =
      fillings.map fun filling => filling.entry.1 := List.map_map
  have values : (fillings.map Filling.entry).map Prod.snd = fillings.map Filling.value :=
    List.map_map
  rw [← columns] at columnsRead
  have small : ∀ index < (fillings.map Filling.entry).length,
      builder.parameters.length + index < Placeholder.ordinalBound := by
    intro index inside
    rw [List.length_map] at inside
    omega
  refine ⟨Lifecycle.inserted descriptor builder (fillings.map Filling.entry), ?_, ?_, ?_⟩
  · rw [perform_insert, bound]
    rfl
  · have whole := wording.texts.inserted_sealed sealedBuilder columnsRead small
    simpa [Texts.insertionTokens, Texts.openingTokens, placeTokens, Wording.texts,
      Wording.insertionTokens] using whole
  · rw [boundValues_inserted, values]

/-! ## Commands -/

namespace Wording

variable (wording : Wording descriptor filter)

/-- Truncating is read as the question for a row and the emptying of payloads. -/
theorem truncate_parse : parse (truncate descriptor filter).sql =
    .ok (.conditional false wording.probe wording.emptying) := by
  have asked : tokenize "IF EXISTS" = .ok [.word "IF", .word "EXISTS"] := by cbv
  have read := (wording.texts.seeded_sealed asked).tokenize_append wording.emptying_read
  rw [← build_sql] at read
  apply IsStatement.parse read
  exact .conditional (by cbv) (.found (by cbv) (by cbv) wording.probe_spelled)
    wording.emptying_spelled

variable {row : NewRow ε} {surroundings after : ε} {fillings : List Filling}

/-- The question is one whether no row matches. -/
theorem missing_spelled : IsQuestion (.word "NOT" :: .word "EXISTS" :: .leftParen ::
    .word "SELECT" :: (wording.probeTokens ++ [.rightParen])) true wording.probe :=
  .missing (by cbv) (by cbv) (by cbv) wording.probe_spelled

/-- Inserting a row whatever exists is read as the insertion, and binds the row's values. -/
theorem createNew_ok (bound : (boundColumns descriptor row.values.entries).perform surroundings =
      (.ok (fillings.map Filling.entry), after))
    (closed : ∀ filling ∈ fillings, ']' ∉ filling.name.toList)
    (few : fillings.length ≤ Placeholder.ordinalBound) :
    ∃ command, (createNew descriptor row).perform surroundings = (.ok command, after) ∧
      parse command.sql = .ok (wording.insertion fillings 0) ∧
      boundValues command.parameters = fillings.map Filling.value := by
  have emptySealed : Sealed CommandBuilder.empty.build.sql [] := sealed_empty
  have fewAll : CommandBuilder.empty.parameters.length + fillings.length ≤
      Placeholder.ordinalBound := by
    simpa [CommandBuilder.empty] using few
  obtain ⟨inserted, ran, sealedText, values⟩ := insert_ok wording bound closed emptySealed fewAll
  refine ⟨inserted.build, ?_, ?_, values⟩
  · rw [createNew, Work.perform_bind, ran]
    rfl
  · exact IsStatement.parse sealedText.read (wording.insertion_spelled fillings 0)

/-- Inserting a row if none matches is read as the question and the insertion, and binds the
filter's values before the row's. -/
theorem openOrCreate_ok (bound : (boundColumns descriptor row.values.entries).perform surroundings =
      (.ok (fillings.map Filling.entry), after))
    (closed : ∀ filling ∈ fillings, ']' ∉ filling.name.toList)
    (few : filter.parameters.length + fillings.length ≤ Placeholder.ordinalBound) :
    ∃ command, (openOrCreate descriptor filter row).perform surroundings = (.ok command, after) ∧
      parse command.sql = .ok (.conditional true wording.probe
        (wording.insertion fillings filter.parameters.length)) ∧
      boundValues command.parameters =
        boundValues filter.parameters ++ fillings.map Filling.value := by
  obtain ⟨inserted, ran, sealedText, values⟩ := insert_ok wording bound closed
    (wording.texts.seeded_sealed missing_read) few
  refine ⟨inserted.build, ?_, ?_, values⟩
  · rw [openOrCreate, Work.perform_bind, ran]
    rfl
  · exact IsStatement.parse sealedText.read
      (.conditional (by cbv) wording.missing_spelled (wording.insertion_spelled fillings _))

/-- Inserting a row if none matches and emptying the payload otherwise is read as the
question, the insertion and the update, and binds the filter's values before the row's. -/
theorem create_ok (bound : (boundColumns descriptor row.values.entries).perform surroundings =
      (.ok (fillings.map Filling.entry), after))
    (closed : ∀ filling ∈ fillings, ']' ∉ filling.name.toList)
    (few : filter.parameters.length + fillings.length ≤ Placeholder.ordinalBound) :
    ∃ command, (create descriptor filter row).perform surroundings = (.ok command, after) ∧
      parse command.sql = .ok (.branch true wording.probe
        (wording.insertion fillings filter.parameters.length) wording.emptying) ∧
      boundValues command.parameters =
        boundValues filter.parameters ++ fillings.map Filling.value := by
  obtain ⟨inserted, ran, sealedText, values⟩ := insert_ok wording bound closed
    (wording.texts.seeded_sealed missing_read) few
  have elseSealed : Sealed " ELSE " [.word "ELSE"] := sealed_of_blank " ELSE" rfl (by cbv)
  have read := (sealedText.append elseSealed).tokenize_append wording.emptying_read
  rw [← build_sql, ← build_sql] at read
  refine ⟨((inserted.sql " ELSE ").sql (emptyPayload descriptor filter)).build, ?_, ?_, values⟩
  · rw [create, Work.perform_bind, ran]
    rfl
  · rw [List.append_assoc, List.append_assoc] at read
    exact IsStatement.parse read (.branch (by cbv) wording.missing_spelled
      (wording.insertion_spelled fillings _) rfl (by cbv) wording.emptying_spelled)

/-! ## The statement of a mode -/

/-- The tree of the statement of a mode, if it has one. -/
def statement? (wording : Wording descriptor filter) (fillings : List Filling) :
    OpenMode → Option Statement
  | .openExisting | .append => none
  | .truncate => some (.conditional false wording.probe wording.emptying)
  | .createNew => some (wording.insertion fillings 0)
  | .create => some (.branch true wording.probe
      (wording.insertion fillings filter.parameters.length) wording.emptying)
  | .openOrCreate => some (.conditional true wording.probe
      (wording.insertion fillings filter.parameters.length))

/-- The values that the statement of a mode binds: the filter's if it asks for a row, and
then those of the row if it inserts one. -/
def values (filter : Clause) (fillings : List Filling) : OpenMode → List Value
  | .openExisting | .append => []
  | .truncate => boundValues filter.parameters
  | .createNew => fillings.map Filling.value
  | .create | .openOrCreate => boundValues filter.parameters ++ fillings.map Filling.value

/-- A statement written for a row that is offered is the command. -/
theorem perform_offered {writing : NewRow ε → Ambient ε Command} {written : Command}
    (mode : OpenMode) (performed : (writing row).perform surroundings = (.ok written, after)) :
    Work.perform (do return some (← writing (← requireRow mode (some row))) :
        Ambient ε (Option Command)) surroundings =
      (.ok (some written), after) := by
  simp only [requireRow, Work.perform_bind, Work.perform_lift, performed, Work.perform_pure]

/-- The command of a mode is read as the statement of the mode and binds its values. -/
theorem command_ok (bound : (boundColumns descriptor row.values.entries).perform surroundings =
      (.ok (fillings.map Filling.entry), after))
    (closed : ∀ filling ∈ fillings, ']' ∉ filling.name.toList)
    (few : filter.parameters.length + fillings.length ≤ Placeholder.ordinalBound)
    {mode : OpenMode} {statement : Statement}
    (known : wording.statement? fillings mode = some statement) {offered : Option (NewRow ε)}
    (given : mode.createsRow = true → offered = some row) :
    ∃ written afterWriting,
      (command descriptor mode filter offered).perform surroundings =
        (.ok (some written), afterWriting) ∧
      parse written.sql = .ok statement ∧
      boundValues written.parameters = values filter fillings mode := by
  cases mode with
  | openExisting => cases known
  | append => cases known
  | truncate =>
    cases known
    exact ⟨truncate descriptor filter, surroundings, rfl, wording.truncate_parse, rfl⟩
  | createNew =>
    cases known
    obtain ⟨written, performed, parsed, values⟩ := wording.createNew_ok bound closed (by omega)
    rw [given rfl]
    exact ⟨written, after, perform_offered .createNew performed, parsed, values⟩
  | create =>
    cases known
    obtain ⟨written, performed, parsed, values⟩ := wording.create_ok bound closed few
    rw [given rfl]
    exact ⟨written, after, perform_offered .create performed, parsed, values⟩
  | openOrCreate =>
    cases known
    obtain ⟨written, performed, parsed, values⟩ := wording.openOrCreate_ok bound closed few
    rw [given rfl]
    exact ⟨written, after, perform_offered .openOrCreate performed, parsed, values⟩

end Wording

end RowPayload.Lifecycle
