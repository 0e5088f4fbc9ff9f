import RowPayload.Engine.Execution
import RowPayload.Proofs.Work.Checked

/-!
# Sound tables

The numbers of a table's rows go up and stay below the next number, and every row has a
value for each column. A table without rows is sound, and statements that run on sound
tables write sound tables.

A column is looked up by its name, and the first with the letters of the name is found.
-/

namespace RowPayload.Engine

open Sql (Operand Condition Select Statement)

/-! ## Rows -/

/-- Assigning cells does not change how many values a row has. -/
@[simp] theorem TableRow.length_assign (row : TableRow) (cells : List (Nat × Value)) :
    (row.assign cells).values.length = row.values.length := by
  simp only [assign]
  generalize row.values = values
  induction cells generalizing values with
  | nil => rfl
  | cons cell rest inductionHypothesis =>
    rw [List.foldl_cons, inductionHypothesis, List.length_set]

/-- Assigning cells does not change the number of a row. -/
@[simp] theorem TableRow.id_assign (row : TableRow) (cells : List (Nat × Value)) :
    (row.assign cells).id = row.id := rfl

/-- Assigning cells in some of the rows keeps what assigning keeps in each. -/
theorem TableRow.map_assign_if {α β : Type} (property : TableRow → β)
    (keeps : ∀ row cells, property (TableRow.assign row cells) = property row)
    (elements : List α) (row : α → TableRow) (chosen : α → Prop) [DecidablePred chosen]
    (cells : List (Nat × Value)) :
    (elements.map fun element =>
      if chosen element then (row element).assign cells else row element).map property =
        elements.map fun element => property (row element) := by
  rw [List.map_map]
  apply List.map_congr_left
  intro element _
  dsimp only [Function.comp]
  split
  · exact keeps (row element) cells
  · rfl

namespace Table

/-! ## Columns -/

/-- What is found under the name of a column is the first column with the letters of the
name. -/
theorem columnIndex_eq_ok_iff {table : Table} {column : String} {index : Nat} :
    table.columnIndex column = .ok index ↔
      table.columns.findIdx? (fun defined =>
        Text.sameLetters defined.name (Bracket.strip column)) = some index := by
  unfold columnIndex
  dsimp only
  split
  · rename_i place found
    simp [found]
  · rename_i missing
    simp [missing]

/-- A column that is found is one of the table. -/
theorem lt_of_columnIndex {table : Table} {column : String} {index : Nat}
    (found : table.columnIndex column = .ok index) : index < table.columns.length :=
  (List.findIdx?_eq_some_iff_getElem.1 (columnIndex_eq_ok_iff.1 found)).1

/-! ## Soundness -/

/-- A table as the engine keeps its tables. -/
structure Sound (table : Table) : Prop where
  /-- Rows stand in the order of their numbers, so no number occurs twice. -/
  ordered : (table.rows.map TableRow.id).Pairwise (· < ·)
  /-- The next number is above every number in use. -/
  fresh : ∀ row ∈ table.rows, row.id < table.nextRowId
  /-- Every row has a value for each column. -/
  full : ∀ row ∈ table.rows, row.values.length = table.columns.length

/-- A table without rows is sound. -/
theorem sound_of_no_rows {table : Table} (empty : table.rows = []) : table.Sound where
  ordered := by simp [empty]
  fresh := by simp [empty]
  full := by simp [empty]

/-- Only the numbers of the rows and how many values they have bear on soundness. -/
theorem Sound.withRows {table : Table} (sound : table.Sound) {rows : List TableRow}
    (ids : rows.map TableRow.id = table.rows.map TableRow.id)
    (lengths : rows.map (·.values.length) = table.rows.map (·.values.length)) :
    Sound { table with rows := rows } where
  ordered := by
    rw [ids]
    exact sound.ordered
  fresh := by
    intro row member
    have numbered : row.id ∈ table.rows.map TableRow.id := ids ▸ List.mem_map_of_mem member
    obtain ⟨old, held, same⟩ := List.mem_map.1 numbered
    rw [← same]
    exact sound.fresh old held
  full := by
    intro row member
    have sized : row.values.length ∈ table.rows.map (·.values.length) :=
      lengths ▸ List.mem_map.2 ⟨row, member, rfl⟩
    obtain ⟨old, held, same⟩ := List.mem_map.1 sized
    rw [← same]
    exact sound.full old held

/-- Setting a cell keeps a table sound. -/
theorem Sound.setCell {table : Table} (sound : table.Sound) (id column : Nat) (value : Value) :
    (table.setCell id column value).Sound := by
  apply sound.withRows
  · exact TableRow.map_assign_if TableRow.id TableRow.id_assign _ _ _ _
  · exact TableRow.map_assign_if (·.values.length) TableRow.length_assign _ _ _ _

/-- A row of values that is added gets the next number. -/
theorem Sound.insert {table grown : Table} (sound : table.Sound) {values : List Value}
    (sized : values.length = table.columns.length) (inserted : table.insert values = .ok grown) :
    grown.Sound := by
  unfold Table.insert at inserted
  split at inserted
  · simp at inserted
  · cases inserted
    refine ⟨?_, ?_, ?_⟩
    · rw [List.map_append, List.pairwise_append]
      refine ⟨sound.ordered, by simp, ?_⟩
      intro id member other last
      obtain ⟨row, held, rfl⟩ := List.mem_map.1 member
      obtain rfl : other = table.nextRowId := by simpa using last
      exact sound.fresh row held
    · intro row member
      rcases List.mem_append.1 member with held | last
      · exact Nat.lt_succ_of_lt (sound.fresh row held)
      · obtain rfl : row = ⟨table.nextRowId, values⟩ := by simpa using last
        exact Nat.lt_succ_self _
    · intro row member
      rcases List.mem_append.1 member with held | last
      · exact sound.full row held
      · obtain rfl : row = ⟨table.nextRowId, values⟩ := by simpa using last
        exact sized

end Table

/-! ## Statements -/

namespace Scene

/-- Every table a statement sees is sound. -/
def Sound (scene : Scene) : Prop := ∀ name table, scene.table? name = some table → table.Sound

variable {scene : Scene}

/-- A table found by its name is one of those a statement sees. -/
theorem table?_of_table {name : String} {table : Table} (found : scene.table name = .ok table) :
    scene.table? (fileName name) = some table := by
  unfold Scene.table at found
  split at found <;> simp_all

/-- What an insertion has done that did not fail. -/
theorem insert_ok {name : String} {columns : List String} {operands : List Operand}
    {effect : Effect} (inserted : scene.insert name columns operands = .ok effect) :
    ∃ table cells grown, scene.table name = .ok table ∧
      scene.resolve table (columns.zip operands) = .ok cells ∧
      table.insert (TableRow.assign
        ⟨table.nextRowId, List.replicate table.columns.length .null⟩ cells).values = .ok grown ∧
      effect = ⟨some (fileName name, grown), 1, 0, .affected 1⟩ := by
  unfold Scene.insert at inserted
  obtain ⟨table, found, inserted⟩ := Checked.bind_ok inserted
  split at inserted
  · cases inserted
  · obtain ⟨cells, resolved, inserted⟩ := Checked.bind_ok inserted
    obtain ⟨grown, grows, inserted⟩ := Checked.bind_ok inserted
    cases inserted
    exact ⟨table, cells, grown, found, resolved, grows, rfl⟩

/-- Marking rows pairs each with its mark. -/
theorem map_fst_marked {check : TableRow → Except Failure Bool} {rows : List TableRow}
    {marked : List (TableRow × Bool)}
    (marks : (rows.mapM fun row => do return (row, ← check row)) = .ok marked) :
    marked.map Prod.fst = rows := by
  refine Checked.map_of_mapM (fun row pair marks => ?_) marks
  obtain ⟨passed, -, marks⟩ := Checked.bind_ok marks
  cases marks
  rfl

/-- What an update has done that did not fail. -/
theorem update_ok {name : String} {assignments : List (String × Operand)}
    {filter : Option Condition} {effect : Effect}
    (updated : scene.update name assignments filter = .ok effect) :
    ∃ table cells, ∃ marked : List (TableRow × Bool), scene.table name = .ok table ∧
      scene.resolve table assignments = .ok cells ∧
      marked.map Prod.fst = table.rows ∧
      effect = ⟨if marked.countP Prod.snd = 0 then none else some (fileName name, { table with
          rows := marked.map fun (row, matched) => if matched then row.assign cells else row }),
        0, marked.countP Prod.snd, .affected (marked.countP Prod.snd)⟩ := by
  unfold Scene.update at updated
  obtain ⟨table, found, updated⟩ := Checked.bind_ok updated
  obtain ⟨cells, resolved, updated⟩ := Checked.bind_ok updated
  obtain ⟨marked, marks, updated⟩ := Checked.bind_ok updated
  cases updated
  exact ⟨table, cells, marked, found, resolved, map_fst_marked marks, rfl⟩

/-- What a selection has done that did not fail. -/
theorem run_select {query : Select} {effect : Effect}
    (ran : scene.run (.select query) = .ok effect) :
    ∃ result, scene.select query = .ok result ∧ effect = .reading (.rows result) := by
  rw [Scene.run] at ran
  obtain ⟨result, selected, same⟩ := Checked.map_ok ran
  exact ⟨result, selected, same.symm⟩

/-- A statement that did not fail has inserted, updated or only read. -/
theorem run_cases {statement : Statement} {effect : Effect}
    (ran : scene.run statement = .ok effect) :
    (∃ name columns operands, scene.insert name columns operands = .ok effect) ∨
    (∃ name assignments filter, scene.update name assignments filter = .ok effect) ∨
    ∃ outcome, effect = .reading outcome := by
  induction statement with
  | insert name columns operands => exact .inl ⟨name, columns, operands, ran⟩
  | update name assignments filter => exact .inr (.inl ⟨name, assignments, filter, ran⟩)
  | select query =>
    obtain ⟨result, -, same⟩ := run_select ran
    exact .inr (.inr ⟨.rows result, same⟩)
  | conditional negated probe body inductionHypothesis =>
    rw [Scene.run] at ran
    obtain ⟨found, -, ran⟩ := Checked.bind_ok ran
    split at ran
    · exact inductionHypothesis ran
    · cases ran
      exact .inr (.inr ⟨_, rfl⟩)
  | branch negated probe body otherwise bodyHypothesis otherwiseHypothesis =>
    rw [Scene.run] at ran
    obtain ⟨found, -, ran⟩ := Checked.bind_ok ran
    split at ran
    · exact bodyHypothesis ran
    · exact otherwiseHypothesis ran

/-- A statement that answers rows writes nothing. -/
theorem written_of_rows {statement : Statement} {effect : Effect} {result : ResultSet}
    (ran : scene.run statement = .ok effect) (answered : effect.outcome = .rows result) :
    effect.written = none := by
  rcases run_cases ran with ⟨_, _, _, inserted⟩ | ⟨_, _, _, updated⟩ | ⟨outcome, rfl⟩
  · obtain ⟨_, _, _, _, _, _, rfl⟩ := insert_ok inserted
    cases answered
  · obtain ⟨_, _, _, _, _, _, rfl⟩ := update_ok updated
    cases answered
  · rfl

/-- A statement that runs on sound tables writes a sound table. -/
theorem sound_run (sound : scene.Sound) {statement : Statement} {effect : Effect} {file : String}
    {table : Table} (ran : scene.run statement = .ok effect)
    (written : effect.written = some (file, table)) : table.Sound := by
  rcases run_cases ran with ⟨_, _, _, inserted⟩ | ⟨_, _, _, updated⟩ | ⟨outcome, rfl⟩
  · obtain ⟨target, cells, grown, found, -, grows, rfl⟩ := insert_ok inserted
    cases written
    exact (sound _ _ (table?_of_table found)).insert (by simp) grows
  · obtain ⟨target, cells, marked, found, -, rows, rfl⟩ := update_ok updated
    dsimp only at written
    split at written
    · simp at written
    · cases written
      apply (sound _ _ (table?_of_table found)).withRows
      · rw [TableRow.map_assign_if TableRow.id TableRow.id_assign, ← rows, List.map_map]
        rfl
      · rw [TableRow.map_assign_if (·.values.length) TableRow.length_assign, ← rows, List.map_map]
        rfl
  · cases written

end Scene

end RowPayload.Engine
