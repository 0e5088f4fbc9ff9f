import RowPayload.Proofs.Lifecycle.Binding
import RowPayload.Proofs.Lifecycle.Insertion

/-!
# What the statement of a mode makes of its table

The statement of a mode, if it is accepted and runs, writes the table of the descriptor and no
other. It leaves the table as it is, or it empties the payloads of all rows that the filter
selects, or it adds a row. Which of these it may do is told by the mode.
-/

namespace RowPayload

open Engine Sql

/-- Whether the statement of a mode empties the payloads of rows that are there. -/
def OpenMode.emptiesPayloads : OpenMode → Bool
  | .create | .truncate => true
  | .openExisting | .createNew | .openOrCreate | .append => false

namespace Lifecycle

/-- What the statement of a mode has made of a table, if it empties a column of the rows that
are selected. -/
inductive Readied (mode : OpenMode) (selects : TableRow → Bool) (column : Nat) (before : Table) :
    Table → Prop where
  /-- The table is as it was, and a mode that empties payloads has found none to empty. -/
  | kept (spared : mode.emptiesPayloads = true → ∀ row ∈ before.rows, selects row = false) :
      Readied mode selects column before before
  /-- The payloads of the rows that are selected are empty. -/
  | emptied (empties : mode.emptiesPayloads = true) :
      Readied mode selects column before (before.emptied selects column)
  /-- There is a new row, and a mode that empties payloads has found none to empty. -/
  | added (creates : mode.createsRow = true)
      (spared : mode.emptiesPayloads = true → ∀ row ∈ before.rows, selects row = false)
      (values : List Value) :
      Readied mode selects column before (before.append values)

namespace Naming

variable {ε : Type} {descriptor : Descriptor} {filter : Clause} {naming : Naming descriptor}
  {condition : Condition} {scene : Scene} {effect : Effect}

/-- A statement that ran has made of a table what the statement of a mode makes of it, and has
written it unless that is nothing. -/
structure Readies (naming : Naming descriptor) (scene : Scene) (effect : Effect) (mode : OpenMode)
    (filter : Clause) (before after : Table) : Prop where
  found : scene.table naming.table = .ok before
  /-- The tables have the same name, key and columns. -/
  frame : { after with rows := before.rows, nextRowId := before.nextRowId } = before
  readied : ∀ column, before.columnIndex naming.payload = .ok column →
    Readied mode (filter.selects before) column before after
  written : effect.written = some (fileName naming.table, after) ∨
    effect.written = none ∧ after = before

/-- A condition that was asked for tells on every row whether it is picked. -/
theorem tells_of_probe {found : ResultSet}
    (probed : scene.select (naming.probe condition) = .ok found) :
    ∃ table, scene.table naming.table = .ok table ∧
      scene.Tells table condition (picks scene.parameters table (some condition)) := by
  obtain ⟨table, known, tried, -⟩ := Scene.select_ok probed
  refine ⟨table, known, fun row member => ?_⟩
  obtain ⟨passed, answered⟩ := tried row member
  have tells : passes scene.parameters table (some condition) row = .ok passed := answered
  rw [picks_of_passes tells]
  exact tells

/-- A statement that adds a row has made that of the table, in a mode that may add one and found
nothing to empty. -/
theorem Added.readies {mode : OpenMode} (creates : mode.createsRow = true) {table : Table}
    {values : List Value} (added : naming.Added scene effect table values)
    (spared : mode.emptiesPayloads = true → ∀ row ∈ table.rows, filter.selects table row = false) :
    naming.Readies scene effect mode filter table (table.append values) where
  found := added.found
  frame := rfl
  readied := fun _ _ => .added creates spared values
  written := by
    rw [added.effect]
    exact .inl rfl

section

variable (picked : ∀ table, picks scene.parameters table (some condition) = filter.selects table)
include picked

/-- Rows that are not found by a question are not selected by its filter. -/
theorem unselected_of_probe {found : ResultSet}
    (probed : scene.select (naming.probe condition) = .ok found)
    (missing : found.rows.isEmpty = true) {table : Table} (known : scene.table naming.table = .ok table) :
    ∀ row ∈ table.rows, filter.selects table row = false := by
  intro row member
  rw [← picked]
  exact picks_of_passes (unmatched_of_probe probed missing known row member)

/-- The statement that empties payloads has emptied those of the rows that the filter selects. -/
theorem readies_of_emptying {mode : OpenMode} (empties : mode.emptiesPayloads = true)
    {table : Table} (known : scene.table naming.table = .ok table)
    (tells : scene.Tells table condition (picks scene.parameters table (some condition)))
    (ran : scene.run (naming.emptying condition) = .ok effect) :
    ∃ after, naming.Readies scene effect mode filter table after := by
  have updated : scene.update naming.table [(naming.payload, .binary [])] (some condition) =
      .ok effect := ran
  obtain ⟨own, cells, _, found, resolved, -, -⟩ := Scene.update_ok updated
  obtain rfl : own = table := by
    rw [known] at found
    exact (Except.ok.inj found).symm
  rw [Scene.resolve] at resolved
  obtain ⟨column, placed, -⟩ := Checked.bind_ok resolved
  rw [Scene.update_emptied known tells placed, picked] at updated
  cases updated
  refine ⟨own.emptied (filter.selects own) column, known, rfl, fun other same => ?_, ?_⟩
  · rw [placed] at same
    cases same
    exact .emptied empties
  · dsimp only
    split
    · rename_i none
      have unmatched : ∀ row ∈ own.rows, filter.selects own row = false := by
        simpa using List.countP_eq_zero.1 none
      exact .inr ⟨rfl, Table.emptied_of_none column unmatched⟩
    · exact .inl rfl

/-- The statement that truncates has emptied the payloads of the rows that the filter selects. -/
theorem readies_of_truncating
    (ran : scene.run (.conditional false (naming.probe condition) (naming.emptying condition)) =
      .ok effect) :
    ∃ before after, naming.Readies scene effect .truncate filter before after := by
  rw [Scene.run] at ran
  obtain ⟨found, probed, ran⟩ := Checked.bind_ok ran
  obtain ⟨table, known, tells⟩ := tells_of_probe probed
  split at ran
  · have empties : OpenMode.truncate.emptiesPayloads = true := rfl
    obtain ⟨after, readies⟩ := readies_of_emptying picked empties known tells ran
    exact ⟨table, after, readies⟩
  · rename_i missing
    cases ran
    have none : found.rows.isEmpty = true := by simpa using missing
    exact ⟨table, table, known, rfl, fun _ _ =>
      .kept fun _ => unselected_of_probe picked probed none known, .inr ⟨rfl, rfl⟩⟩

end

/-- The statement of a mode that may insert a row has added one, or has done what the mode does
where the filter selects one. -/
theorem Inserts.readies {mode : OpenMode} {statement : Statement}
    (inserts : naming.Inserts filter condition mode statement scene.parameters)
    (picked : boundValues filter.parameters <+: boundValues scene.parameters →
      ∀ table, picks scene.parameters table (some condition) = filter.selects table)
    (ran : scene.run statement = .ok effect) :
    ∃ before after, naming.Readies scene effect mode filter before after := by
  cases inserts with
  | createNew inserts =>
    obtain ⟨table, values, added⟩ := inserts.run_ok ran
    exact ⟨table, _, added.readies rfl (by simp [OpenMode.emptiesPayloads])⟩
  | create inserts goesOn =>
    rw [Scene.run] at ran
    obtain ⟨found, probed, ran⟩ := Checked.bind_ok ran
    split at ran
    · rename_i missing
      obtain ⟨table, values, added⟩ := inserts.run_ok ran
      exact ⟨table, _, added.readies rfl fun _ =>
        unselected_of_probe (picked goesOn) probed missing added.found⟩
    · obtain ⟨table, known, tells⟩ := tells_of_probe probed
      have empties : OpenMode.create.emptiesPayloads = true := rfl
      obtain ⟨after, readies⟩ := readies_of_emptying (picked goesOn) empties known tells ran
      exact ⟨table, after, readies⟩
  | openOrCreate inserts goesOn =>
    rw [Scene.run] at ran
    obtain ⟨found, probed, ran⟩ := Checked.bind_ok ran
    split at ran
    · obtain ⟨table, values, added⟩ := inserts.run_ok ran
      exact ⟨table, _, added.readies rfl (by simp [OpenMode.emptiesPayloads])⟩
    · obtain ⟨table, known, -⟩ := tells_of_probe probed
      cases ran
      exact ⟨table, table, known, rfl, fun _ _ => .kept (by simp [OpenMode.emptiesPayloads]),
        .inr ⟨rfl, rfl⟩⟩

/-- **The command of a mode, if it is accepted and runs, does what the mode says**, with the rows
that the filter selects by its own values. -/
theorem readies_of_command (naming : Naming descriptor) {predicate : Predicate ε}
    {surroundings later : ε}
    (compiled : (predicate.compile descriptor).perform surroundings = (.ok filter, later))
    {semicolons : Nat} (spells : filter.Spells condition semicolons) {mode : OpenMode}
    {entries : List (String × Value)}
    (mapped : ∀ entry ∈ entries, ∃ property, descriptor.columns.get? property = some entry.1)
    {written : Command} (writes : composed descriptor filter entries mode = some written)
    {read : Statement} (parsed : parse written.sql = .ok read)
    (bound : scene.parameters = written.parameters) (ran : scene.run read = .ok effect) :
    ∃ before after, naming.Readies scene effect mode filter before after := by
  have picked : boundValues filter.parameters <+: boundValues scene.parameters →
      ∀ table, picks scene.parameters table (some condition) = filter.selects table :=
    fun goesOn table => naming.picks_eq_selects compiled spells goesOn table
  have inserting (creates : mode.createsRow = true) :
      ∃ before after, naming.Readies scene effect mode filter before after := by
    have inserts := naming.inserts_of_parse spells creates mapped writes parsed
    rw [← bound] at inserts
    exact inserts.readies picked ran
  cases mode with
  | openExisting | append => cases writes
  | createNew | create | openOrCreate => exact inserting rfl
  | truncate =>
    cases writes
    obtain rfl := naming.truncates_of_parse spells parsed
    refine readies_of_truncating (picked ?_) ran
    rw [bound]
    exact List.prefix_rfl

end Naming

end Lifecycle

end RowPayload
