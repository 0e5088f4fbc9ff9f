import RowPayload.Proofs.Lifecycle.Identifying
import RowPayload.Proofs.Lifecycle.Readying

/-!
# Modes that look before they insert

The statements of two modes look for a row that the filter selects. If there is none, they have
added one, with the values of the new row in their columns. If there is one, they have added none,
and left the table as it is or emptied payloads.
-/

namespace RowPayload

open Engine Sql

/-- Whether a mode that inserts a row looks for one first. -/
def OpenMode.looks : OpenMode → Bool
  | .create | .openOrCreate => true
  | .openExisting | .createNew | .truncate | .append => false

/-- A mode that looks for a row before it inserts one may insert one. -/
theorem OpenMode.createsRow_of_looks {mode : OpenMode} (looks : mode.looks = true) :
    mode.createsRow = true := by
  cases mode <;> first | rfl | cases looks

/-- A mode that looks for a row before it inserts one does not append. -/
theorem OpenMode.ne_append_of_looks {mode : OpenMode} (looks : mode.looks = true) :
    mode ≠ .append := by
  rintro rfl
  cases looks

namespace Lifecycle.Naming

variable {descriptor : Descriptor} {filter : Clause}

/-- What a statement that looks for a row which is selected has made of a table: it has added a row
with some cells, or has found one and added none. -/
inductive Ensured (naming : Naming descriptor) (selects : TableRow → Bool) (before : Table)
    (cell : Nat → Value) : Effect → Table → Prop where
  | added (missing : ∀ row ∈ before.rows, selects row = false) :
      Ensured naming selects before cell
        ⟨some (fileName naming.table, before.append (before.rowOf cell).values), 1, 0, .affected 1⟩
        (before.append (before.rowOf cell).values)
  | kept (found : ∃ row ∈ before.rows, selects row = true) :
      Ensured naming selects before cell (.reading (.affected 0)) before
  | emptied (found : ∃ row ∈ before.rows, selects row = true) {column : Nat}
      (placed : before.columnIndex naming.payload = .ok column) (updated : Nat)
      (outcome : Outcome) :
      Ensured naming selects before cell
        ⟨some (fileName naming.table, before.emptied selects column), 0, updated, outcome⟩
        (before.emptied selects column)

/-- Emptying the payloads of rows one of which is selected has emptied them. -/
theorem ensured_of_emptying {naming : Naming descriptor} {condition : Condition} {scene : Scene}
    {effect : Effect} {table : Table} (known : scene.table naming.table = .ok table)
    (tells : scene.Tells table condition (filter.selects table))
    (found : ∃ row ∈ table.rows, filter.selects table row = true) (cell : Nat → Value)
    (ran : scene.run (naming.emptying condition) = .ok effect) :
    ∃ after, naming.Ensured (filter.selects table) table cell effect after := by
  have updated : scene.update naming.table [(naming.payload, .binary [])] (some condition) =
      .ok effect := ran
  obtain ⟨own, cells, _, again, resolved, -, -⟩ := Scene.update_ok updated
  obtain rfl : own = table := Except.ok.inj (again.symm.trans known)
  rw [Scene.resolve] at resolved
  obtain ⟨column, placed, -⟩ := Checked.bind_ok resolved
  have some : own.rows.countP (filter.selects own) ≠ 0 := by
    obtain ⟨row, member, selected⟩ := found
    exact (List.countP_pos_iff.2 ⟨row, member, selected⟩).ne'
  rw [Scene.update_emptied known tells placed, if_neg some] at updated
  cases updated
  exact ⟨_, .emptied found placed _ _⟩

section

variable (naming : Naming descriptor) {condition : Condition} {names : List String}
  {values : List (String × Value)} {scene : Scene} {effect : Effect}
  (named : Named descriptor values names)
  (binds : boundValues filter.parameters ++ values.map Prod.snd <+: boundValues scene.parameters)
  (picked : ∀ table, picks scene.parameters table (some condition) = filter.selects table)
include named binds picked

/-- **The statement of a mode that looks for a row**, if it runs, has added the new row where the
filter selects none, and no row where it selects one. -/
theorem ensured_of_creating {mode : OpenMode} (looks : mode.looks = true) {statement : Statement}
    (known : naming.creating filter condition names mode = some statement)
    (ran : scene.run statement = .ok effect) :
    ∃ before after, scene.table naming.table = .ok before ∧
      naming.Ensured (filter.selects before) before
        (newCell descriptor (descriptor.placeIn before) values) effect after := by
  obtain ⟨found, probed⟩ : ∃ found, scene.select (naming.probe condition) = .ok found := by
    cases mode with
    | openExisting | createNew | truncate | append => cases looks
    | create | openOrCreate =>
      cases known
      rw [Scene.run] at ran
      obtain ⟨found, probed, -⟩ := Checked.bind_ok ran
      exact ⟨found, probed⟩
  obtain ⟨table, seen, tells⟩ := tells_of_probe probed
  rw [picked] at tells
  have adding (none : table.rows.any (filter.selects table) = false)
      (inserted : scene.run (naming.insertion names filter.parameters.length) = .ok effect) :
      ∃ after, naming.Ensured (filter.selects table) table
        (newCell descriptor (descriptor.placeIn table) values) effect after := by
    have counted : filter.parameters.length = (boundValues filter.parameters).length :=
      (List.length_map _).symm
    rw [counted] at inserted
    obtain ⟨own, again, rfl⟩ := naming.insertion_run_ok named binds inserted
    obtain rfl : own = table := Except.ok.inj (again.symm.trans seen)
    exact ⟨_, .added (by simpa using none)⟩
  have finding (some : table.rows.any (filter.selects table) = true) :
      ∃ row ∈ table.rows, filter.selects table row = true :=
    List.any_eq_true.1 some
  have branches := Scene.run_branch seen tells true
  have conditions := Scene.run_conditional seen tells true
  cases mode with
  | openExisting | createNew | truncate | append => cases looks
  | create =>
    cases known
    rw [probe, branches] at ran
    cases any : table.rows.any (filter.selects table) with
    | true =>
      rw [any, if_pos rfl] at ran
      obtain ⟨after, ensured⟩ := ensured_of_emptying seen tells (finding any)
        (newCell descriptor (descriptor.placeIn table) values) ran
      exact ⟨table, after, seen, ensured⟩
    | false =>
      rw [any, if_neg (by decide)] at ran
      obtain ⟨after, ensured⟩ := adding any ran
      exact ⟨table, after, seen, ensured⟩
  | openOrCreate =>
    cases known
    rw [probe, conditions] at ran
    cases any : table.rows.any (filter.selects table) with
    | true =>
      rw [any, if_pos rfl] at ran
      cases ran
      exact ⟨table, table, seen, .kept (finding any)⟩
    | false =>
      rw [any, if_neg (by decide)] at ran
      obtain ⟨after, ensured⟩ := adding any ran
      exact ⟨table, after, seen, ensured⟩

end

end Lifecycle.Naming

end RowPayload
