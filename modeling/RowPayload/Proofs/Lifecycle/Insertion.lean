import RowPayload.Proofs.Engine.Selection
import RowPayload.Proofs.Engine.Writers
import RowPayload.Proofs.Lifecycle.Naming

/-!
# The row that a mode inserts

Where the statement of a mode has inserted a row, it has added one row to the table, whose
payload is empty, and nothing else. Unless the mode inserts whatever exists, no row of the
table met the filter before.
-/

namespace RowPayload

open Engine Sql

/-! ## Assignments -/

/-- The last of some assignments is resolved last. -/
theorem Engine.Scene.resolve_concat {scene : Scene} {table : Table}
    {assignments : List (String × Operand)} {column : String} {operand : Operand}
    {cells : List (Nat × Value)}
    (resolved : scene.resolve table (assignments ++ [(column, operand)]) = .ok cells) :
    ∃ earlier index value, cells = earlier ++ [(index, value)] ∧
      table.columnIndex column = .ok index ∧
      constantValue scene.parameters operand = .ok value := by
  induction assignments generalizing cells with
  | nil =>
    rw [List.nil_append, resolve] at resolved
    obtain ⟨index, placed, resolved⟩ := Checked.bind_ok resolved
    obtain ⟨value, evaluated, resolved⟩ := Checked.bind_ok resolved
    cases resolved
    exact ⟨[], index, value, rfl, placed, evaluated⟩
  | cons first rest inductionHypothesis =>
    obtain ⟨name, place⟩ := first
    rw [List.cons_append, resolve] at resolved
    obtain ⟨index, -, resolved⟩ := Checked.bind_ok resolved
    obtain ⟨value, -, resolved⟩ := Checked.bind_ok resolved
    obtain ⟨following, others, resolved⟩ := Checked.bind_ok resolved
    cases resolved
    obtain ⟨earlier, last, lastValue, rfl, found⟩ := inductionHypothesis others
    exact ⟨(index, value) :: earlier, last, lastValue, rfl, found⟩

/-- A cell that is assigned last holds the value. -/
theorem Engine.TableRow.cell_assign_concat {row : TableRow} {column : Nat}
    (inside : column < row.values.length) (cells : List (Nat × Value)) (value : Value) :
    (row.assign (cells ++ [(column, value)])).cell column = value := by
  rw [TableRow.cell_assign_last inside]
  simp [lastValue?]

/-! ## Insertions -/

namespace Lifecycle.Naming

variable {descriptor : Descriptor} {filter : Clause} {naming : Naming descriptor}
  {scene : Scene} {effect : Effect}

/-- All that a statement has done is to add a row of values to a table, with an empty
payload. -/
structure Added (naming : Naming descriptor) (scene : Scene) (effect : Effect) (table : Table)
    (values : List Value) : Prop where
  found : scene.table naming.table = .ok table
  payload : ∃ column, table.columnIndex naming.payload = .ok column ∧
    TableRow.cell ⟨table.nextRowId, values⟩ column = .bytes []
  effect : effect = ⟨some (fileName naming.table, table.append values), 1, 0, .affected 1⟩

/-- A statement that inserts a row with an empty payload adds one. -/
theorem InsertsEmpty.run_ok {insertion : Statement} (inserts : naming.InsertsEmpty insertion)
    (ran : scene.run insertion = .ok effect) :
    ∃ table values, naming.Added scene effect table values := by
  obtain ⟨sized⟩ := inserts
  rename_i names operands
  have inserted : scene.insert naming.table (names ++ [naming.payload])
      (operands ++ [.binary []]) = .ok effect := ran
  obtain ⟨table, cells, grown, found, resolved, grows, rfl⟩ := Scene.insert_ok inserted
  rw [List.zip_append sized] at resolved
  obtain ⟨earlier, column, value, rfl, placed, evaluated⟩ := Scene.resolve_concat resolved
  cases evaluated
  refine ⟨table, _, found, ⟨column, placed, ?_⟩, by rw [Table.append_of_insert grows]⟩
  have inside : column < table.blankRow.values.length := by
    simpa [Table.blankRow] using Table.lt_of_columnIndex placed
  exact TableRow.cell_assign_concat inside earlier (.bytes [])

variable {condition : Condition}

/-- A question that no row answers has tried the condition on every row of the table, and none
meets it. -/
theorem unmatched_of_probe {found : ResultSet} (probed : scene.select (naming.probe condition) =
      .ok found) (missing : found.rows.isEmpty = true) {table : Table}
    (known : scene.table naming.table = .ok table) :
    ∀ row ∈ table.rows, passes scene.parameters table (some condition) row = .ok false := by
  obtain ⟨own, seen, none⟩ := Scene.select_none probed (List.isEmpty_iff.1 missing)
  have same : own = table := by
    have again : scene.table naming.table = .ok own := seen
    rw [known] at again
    exact (Except.ok.inj again).symm
  rw [← same]
  exact none

/-- **What the statement of a mode has done that has inserted a row**: it has added the row, and
unless it inserts whatever exists, no row of the table meets the filter. -/
theorem Inserts.run_ok {mode : OpenMode} {statement : Statement}
    (inserts : naming.Inserts filter condition mode statement scene.parameters)
    (ran : scene.run statement = .ok effect) (inserted : 0 < effect.inserted) :
    ∃ table values, naming.Added scene effect table values ∧
      (mode ≠ .createNew → ∀ row ∈ table.rows, ∀ passed,
        passes filter.parameters table (some condition) row = .ok passed → passed = false) := by
  -- A row that does not meet the condition with the statement's parameters does not meet it
  -- with those of the filter, which are the first of them.
  have unmatched {found : ResultSet} {table : Table}
      (probed : scene.select (naming.probe condition) = .ok found)
      (missing : found.rows.isEmpty = true) (known : scene.table naming.table = .ok table)
      (goesOn : boundValues filter.parameters <+: boundValues scene.parameters) :
      ∀ row ∈ table.rows, ∀ passed,
        passes filter.parameters table (some condition) row = .ok passed → passed = false := by
    intro row member passed tried
    have none := unmatched_of_probe probed missing known row member
    rw [passes_mono goesOn tried] at none
    exact Except.ok.inj none
  cases inserts with
  | createNew inserts =>
    obtain ⟨table, values, added⟩ := inserts.run_ok ran
    exact ⟨table, values, added, fun other => absurd rfl other⟩
  | create inserts goesOn =>
    rw [Scene.run] at ran
    obtain ⟨found, probed, ran⟩ := Checked.bind_ok ran
    split at ran
    · rename_i missing
      obtain ⟨table, values, added⟩ := inserts.run_ok ran
      exact ⟨table, values, added, fun _ => unmatched probed missing added.found goesOn⟩
    · obtain ⟨_, _, _, -, -, -, rfl⟩ := Scene.update_ok ran
      cases inserted
  | openOrCreate inserts goesOn =>
    rw [Scene.run] at ran
    obtain ⟨found, probed, ran⟩ := Checked.bind_ok ran
    split at ran
    · rename_i missing
      obtain ⟨table, values, added⟩ := inserts.run_ok ran
      exact ⟨table, values, added, fun _ => unmatched probed missing added.found goesOn⟩
    · cases ran
      cases inserted

end Lifecycle.Naming

end RowPayload
