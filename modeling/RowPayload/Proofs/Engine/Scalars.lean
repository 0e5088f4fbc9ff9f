import RowPayload.Proofs.Engine.Keys
import RowPayload.Proofs.Engine.Writers

/-!
# Scalars

What is written through handles, and what emptying payloads changes, are payloads. Where nothing
else has changed, every row has the scalars it had. So a table that holds one row of a key, with
some scalars, goes on holding it, since keys are scalars.
-/

namespace RowPayload.Engine

/-- A column is one for scalars. -/
def Table.IsScalar (table : Table) (column : Nat) : Prop :=
  table.columns[column]?.map TableColumn.isPayload = some false

/-- A table differs from another in payloads at most. -/
structure Table.PayloadsChanged (before after : Table) : Prop where
  /-- The tables have the same name, key, columns and next row number. -/
  frame : { after with rows := before.rows } = before
  /-- Every row was changed in its place, and has the scalars it had. -/
  rows : ∃ change : TableRow → TableRow, after.rows = before.rows.map change ∧
    ∀ row ∈ before.rows, ∀ column, before.IsScalar column →
      (change row).cell column = row.cell column

/-- A table has one row whose value in a column equals a key, with some scalars. -/
def Table.HoldsOne (table : Table) (column : Nat) (key : Value) (cell : Nat → Value) : Prop :=
  ∃ row, (table.rows.filter fun row => (row.cell column).sqlEqual key) = [row] ∧
    ∀ place, table.IsScalar place → row.cell place = cell place

/-- What becomes of a table that is to hold a row of a key, and how many rows are inserted: where it
holds none, one with some scalars is added, and where it holds one, payloads change at most. -/
inductive Table.Ensures (before : Table) (column : Nat) (key : Value) (cell : Nat → Value) :
    Nat → Table → Prop where
  | added {after : Table}
      (frame : { after with rows := before.rows, nextRowId := before.nextRowId } = before)
      (missing : ∀ row ∈ before.rows, (row.cell column).sqlEqual key = false)
      (holds : after.HoldsOne column key cell) : Ensures before column key cell 1 after
  | found {after : Table} (present : ∃ row ∈ before.rows, (row.cell column).sqlEqual key = true)
      (changed : before.PayloadsChanged after) : Ensures before column key cell 0 after

namespace Table

variable {before middle after : Table}

/-- A column for payloads is none for scalars. -/
theorem IsScalar.ne {table : Table} {column payload : Nat} (scalar : table.IsScalar column)
    (holdsPayloads : (table.columns[payload]?.map TableColumn.isPayload).getD false = true) :
    column ≠ payload := by
  rintro rfl
  rw [scalar] at holdsPayloads
  cases holdsPayloads

/-- The payload column that a path locator leads to is one for payloads. -/
theorem holdsPayloads_of_first {table : Table} {column : Nat}
    (first : table.payloadIndex? = some column) :
    (table.columns[column]?.map TableColumn.isPayload).getD false = true := by
  obtain ⟨inside, holdsPayloads, -⟩ := List.findIdx?_eq_some_iff_getElem.1 first
  rw [List.getElem?_eq_getElem inside]
  exact holdsPayloads

/-! ## Payloads that changed -/

/-- Nothing has changed in a table that is the same. -/
theorem PayloadsChanged.refl (table : Table) : table.PayloadsChanged table :=
  ⟨rfl, id, (List.map_id _).symm, fun _ _ _ _ => rfl⟩

/-- Tables that differ in payloads have the same columns. -/
theorem PayloadsChanged.columns (changed : before.PayloadsChanged after) :
    after.columns = before.columns := by
  rw [← changed.frame]

/-- Changes of payloads one after another are one. -/
theorem PayloadsChanged.trans (first : before.PayloadsChanged middle)
    (second : middle.PayloadsChanged after) : before.PayloadsChanged after where
  frame := by
    have same : { after with rows := before.rows } = { middle with rows := before.rows } :=
      congrArg (fun table : Table => { table with rows := before.rows }) second.frame
    exact same.trans first.frame
  rows := by
    obtain ⟨change, rows, kept⟩ := first.rows
    obtain ⟨further, others, keptToo⟩ := second.rows
    refine ⟨further ∘ change, by rw [others, rows, List.map_map],
      fun row member column scalar => ?_⟩
    have inMiddle : change row ∈ middle.rows := rows ▸ List.mem_map_of_mem member
    have stillScalar : middle.IsScalar column := by rwa [IsScalar, first.columns]
    exact (keptToo _ inMiddle column stillScalar).trans (kept row member column scalar)

/-- Assigning to a payload column of some rows changes payloads. -/
theorem payloadsChanged_assign (table : Table) (chosen : TableRow → Prop)
    [DecidablePred chosen] {payload : Nat} (value : Value)
    (holdsPayloads : (table.columns[payload]?.map TableColumn.isPayload).getD false = true) :
    table.PayloadsChanged { table with
      rows := table.rows.map fun row =>
        if chosen row then row.assign [(payload, value)] else row } where
  frame := rfl
  rows := by
    refine ⟨_, rfl, fun row _ column scalar => ?_⟩
    split
    · refine TableRow.cell_assign_other (fun cell member => ?_) row
      obtain rfl := List.mem_singleton.1 member
      exact (scalar.ne holdsPayloads).symm
    · rfl

/-! ## Rows of a key -/

/-- The only row that passes a test is there, and passes. -/
theorem mem_of_only {rows : List TableRow} {test : TableRow → Bool} {row : TableRow}
    (only : rows.filter test = [row]) : row ∈ rows ∧ test row = true := by
  have found : row ∈ rows.filter test := by
    rw [only]
    exact List.mem_singleton_self row
  exact List.mem_filter.1 found

/-- A table goes on holding one row of a key while payloads change. -/
theorem HoldsOne.payloadsChanged {column : Nat} {key : Value} {cell : Nat → Value}
    (holds : before.HoldsOne column key cell) (scalar : before.IsScalar column)
    (changed : before.PayloadsChanged after) : after.HoldsOne column key cell := by
  obtain ⟨row, only, cells⟩ := holds
  obtain ⟨change, rows, kept⟩ := changed.rows
  have sameKeys : ∀ other ∈ before.rows, ((change other).cell column).sqlEqual key =
      (other.cell column).sqlEqual key := fun other member => by
    rw [kept other member column scalar]
  have member : row ∈ before.rows := (mem_of_only only).1
  refine ⟨change row, ?_, fun place placeScalar => ?_⟩
  · rw [rows, List.filter_map]
    have same : before.rows.filter ((fun row => (row.cell column).sqlEqual key) ∘ change) =
        before.rows.filter fun row => (row.cell column).sqlEqual key :=
      List.filter_congr sameKeys
    rw [same, only]
    rfl
  · have wasScalar : before.IsScalar place := by rwa [IsScalar, ← changed.columns]
    rw [kept row member place wasScalar, cells place wasScalar]

/-- A table that holds one row of a key has a row of it. -/
theorem HoldsOne.present {table : Table} {column : Nat} {key : Value} {cell : Nat → Value}
    (holds : table.HoldsOne column key cell) :
    ∃ row ∈ table.rows, (row.cell column).sqlEqual key = true := by
  obtain ⟨row, only, -⟩ := holds
  exact ⟨row, mem_of_only only⟩

/-- A table without a row of a key holds one once such a row is added. -/
theorem holdsOne_append {table : Table} {column : Nat} {key : Value} {cell : Nat → Value}
    (missing : ∀ row ∈ table.rows, (row.cell column).sqlEqual key = false)
    (matching : ((table.rowOf cell).cell column).sqlEqual key = true) :
    (table.append (table.rowOf cell).values).HoldsOne column key cell := by
  have none : (table.rows.filter fun row => (row.cell column).sqlEqual key) = [] := by
    simpa [List.filter_eq_nil_iff] using missing
  refine ⟨table.rowOf cell, ?_, fun place scalar => ?_⟩
  · show (table.rows ++ [table.rowOf cell]).filter _ = _
    rw [List.filter_append, none, List.nil_append]
    exact List.filter_eq_self.2 fun row member => List.mem_singleton.1 member ▸ matching
  · obtain ⟨defined, found, -⟩ := Option.map_eq_some_iff.1 scalar
    have inside : place < table.columns.length := (List.getElem?_eq_some_iff.1 found).1
    exact cell_rowOf table cell inside

section

variable {column : Nat} {key : Value} {cell : Nat → Value} {inserted : Nat}

/-- A table that is to hold a row of a key keeps its name, key and columns. -/
theorem Ensures.frame (ensures : before.Ensures column key cell inserted after) :
    { after with rows := before.rows, nextRowId := before.nextRowId } = before := by
  cases ensures with
  | added frame missing holds => exact frame
  | found present changed =>
    exact congrArg (fun table : Table => { table with nextRowId := before.nextRowId })
      changed.frame

/-- A table that is to hold a row of a key keeps its columns. -/
theorem Ensures.columns (ensures : before.Ensures column key cell inserted after) :
    after.columns = before.columns := by
  rw [← ensures.frame]

/-- A table that holds a row of the key has the row found, and changes payloads at most. -/
theorem Ensures.changed (ensures : before.Ensures column key cell inserted after)
    {held : Nat → Value} (holds : before.HoldsOne column key held) :
    inserted = 0 ∧ before.PayloadsChanged after := by
  cases ensures with
  | added frame missing =>
    obtain ⟨row, member, matching⟩ := holds.present
    rw [missing row member] at matching
    cases matching
  | found present changed => exact ⟨rfl, changed⟩

/-- A table that holds no row of the key has one added. -/
theorem Ensures.holds (ensures : before.Ensures column key cell inserted after)
    (missing : ∀ row ∈ before.rows, (row.cell column).sqlEqual key = false) :
    inserted = 1 ∧ after.HoldsOne column key cell := by
  cases ensures with
  | added frame none holds => exact ⟨rfl, holds⟩
  | found present changed =>
    obtain ⟨row, member, matching⟩ := present
    rw [missing row member] at matching
    cases matching

/-- Payloads may change then. -/
theorem Ensures.payloadsChanged (ensures : before.Ensures column key cell inserted middle)
    (scalar : before.IsScalar column) (changed : middle.PayloadsChanged after) :
    before.Ensures column key cell inserted after := by
  cases ensures with
  | added frame missing holds =>
    have columns : middle.columns = before.columns := by rw [← frame]
    have stillScalar : middle.IsScalar column := by rwa [IsScalar, columns]
    refine .added ?_ missing (holds.payloadsChanged stillScalar changed)
    have same : { after with rows := before.rows, nextRowId := before.nextRowId } =
        { middle with rows := before.rows, nextRowId := before.nextRowId } :=
      congrArg (fun table : Table =>
        { table with rows := before.rows, nextRowId := before.nextRowId }) changed.frame
    exact same.trans frame
  | found present earlier => exact .found present (earlier.trans changed)

end

end Table

end RowPayload.Engine
