import RowPayload.Engine.Transaction
import RowPayload.Proofs.Engine.SoundTable

/-!
# One cell of a table

Setting a cell of a sound table changes that cell and nothing else, setting it again is as
if it had been set once, and setting it to what it holds changes nothing. A transaction
that writes a cell sees the tables it saw but for that cell.
-/

namespace RowPayload.Engine

/-- A cell that is assigned holds the value, and the others what they held. -/
theorem TableRow.cell_assign {row : TableRow} {column : Nat} (inside : column < row.values.length)
    (value : Value) (other : Nat) :
    (row.assign [(column, value)]).cell other =
      if other = column then value else row.cell other := by
  simp only [cell, assign, List.foldl_cons, List.foldl_nil, List.getD_eq_getElem?_getD,
    List.getElem?_set]
  by_cases here : other = column
  · subst here
    simp [inside]
  · simp [here, Ne.symm here]

namespace Table

/-- A table differs from another in one cell at most, which holds a value. -/
structure CellChanged (before after : Table) (id column : Nat) (value : Value) : Prop where
  /-- The tables have the same name, key, columns and next row number. -/
  frame : { after with rows := before.rows } = before
  /-- The rows have the same numbers in the same order. -/
  ids : after.rows.map TableRow.id = before.rows.map TableRow.id
  /-- Every cell but the one is the same. -/
  cells : ∀ (place : Nat) (old new : TableRow), before.rows[place]? = some old →
    after.rows[place]? = some new →
    ∀ other, new.cell other = if old.id = id ∧ other = column then value else old.cell other

/-- A row of a sound table is found under its number. -/
theorem Sound.row?_of_mem {table : Table} (sound : table.Sound) {row : TableRow}
    (member : row ∈ table.rows) : table.row? row.id = some row := by
  have ordered := sound.ordered
  unfold row?
  clear sound
  generalize table.rows = rows at member ordered
  induction rows with
  | nil => cases member
  | cons first rest inductionHypothesis =>
    rw [List.map_cons, List.pairwise_cons] at ordered
    rcases List.mem_cons.1 member with rfl | later
    · simp
    · have before : first.id < row.id := ordered.1 row.id (List.mem_map_of_mem later)
      have different : (first.id == row.id) = false := by simpa using Nat.ne_of_lt before
      rw [List.find?_cons, different]
      exact inductionHypothesis later ordered.2

/-- A row that is found has the number it was looked for. -/
theorem id_of_row? {table : Table} {id : Nat} {row : TableRow} (found : table.row? id = some row) :
    row.id = id := by
  have matching := List.find?_some found
  simpa using matching

/-- The row after a cell was set. -/
theorem row?_setCell (table : Table) (id column : Nat) (value : Value) (other : Nat) :
    (table.setCell id column value).row? other =
      (table.row? other).map fun row =>
        if row.id = id then row.assign [(column, value)] else row := by
  have same : ((fun row : TableRow => row.id == other) ∘ fun row =>
      if row.id = id then row.assign [(column, value)] else row) = fun row => row.id == other := by
    funext row
    dsimp only [Function.comp]
    split <;> rfl
  simp only [row?, setCell, List.find?_map, same]

/-- Of two settings of a cell the second one counts. -/
theorem setCell_setCell (table : Table) (id column : Nat) (first second : Value) :
    (table.setCell id column first).setCell id column second = table.setCell id column second := by
  simp only [setCell, List.map_map]
  congr 1
  apply List.map_congr_left
  intro row _
  dsimp only [Function.comp]
  by_cases here : row.id = id
  · simp [here, TableRow.assign]
  · simp [here]

/-- Setting a cell to what it holds changes nothing. -/
theorem Sound.setCell_self {table : Table} (sound : table.Sound) {id column : Nat} {row : TableRow}
    {value : Value} (found : table.row? id = some row) (held : row.values[column]? = some value) :
    table.setCell id column value = table := by
  have rows : (table.rows.map fun row =>
      if row.id = id then row.assign [(column, value)] else row) =
        table.rows.map fun row => row := by
    apply List.map_congr_left
    intro other member
    by_cases here : other.id = id
    · have again := sound.row?_of_mem member
      rw [here, found] at again
      obtain rfl := Option.some.inj again
      have kept : row.values.set column value = row.values := by
        obtain ⟨inside, equal⟩ := List.getElem?_eq_some_iff.1 held
        rw [← equal, List.set_getElem_self]
      rw [if_pos here]
      show { row with values := row.values.set column value } = row
      rw [kept]
    · simp [here]
  rw [Table.setCell, rows, List.map_id']

/-- The cell that was set is the only one that changed. -/
theorem Sound.cellChanged_setCell {table : Table} (sound : table.Sound) {id column : Nat}
    {row : TableRow} (found : table.row? id = some row) (inside : column < row.values.length)
    (value : Value) : table.CellChanged (table.setCell id column value) id column value where
  frame := rfl
  ids := TableRow.map_assign_if TableRow.id TableRow.id_assign _ _ _ _
  cells := by
    intro place old new before after other
    simp only [Table.setCell, List.getElem?_map, before, Option.map_some,
      Option.some.injEq] at after
    rw [← after]
    by_cases here : old.id = id
    · have member : old ∈ table.rows := List.mem_of_getElem? before
      have same : old = row := by
        have again := sound.row?_of_mem member
        rw [here, found] at again
        exact (Option.some.inj again).symm
      subst same
      rw [if_pos here, TableRow.cell_assign inside]
      simp [here]
    · simp [here]

end Table

/-! ## Transactions -/

namespace Transaction

/-- A table that was written is seen as written, and the others as before. -/
theorem table?_writeTable (transaction : Transaction) (name other : String)
    (table : Table) : (transaction.writeTable name table).table? other =
      if other = name then some table else transaction.table? other := by
  simp only [table?, writeTable, OrderedMap.get?_insert]
  split <;> rfl

/-- A transaction that sees tables with a property, and writes one, sees tables with it. -/
theorem holds_writeTable {property : String → Table → Prop} {transaction : Transaction}
    (held : ∀ name table, transaction.table? name = some table → property name table)
    {file : String} {table : Table} (written : property file table) :
    ∀ name seen, (transaction.writeTable file table).table? name = some seen →
      property name seen := by
  intro name seen found
  rw [table?_writeTable] at found
  split at found
  · rename_i here
    cases found
    exact here ▸ written
  · exact held name seen found

/-- What a path locator leads to: the first payload column of the row it names. -/
theorem payload?_eq_some {transaction : Transaction} {path : String} {address : CellAddress}
    {content : Bytes} (led : transaction.payload? path = some (address, content)) :
    ∃ name table row, Locator.read? path = some (name, address.row) ∧
      address.table = fileName name ∧ transaction.table? address.table = some table ∧
      table.payloadIndex? = some address.column ∧ table.row? address.row = some row ∧
      row.values[address.column]? = some (.bytes content) := by
  simp only [payload?, Option.bind_eq_bind, Option.bind_eq_some_iff] at led
  obtain ⟨⟨name, id⟩, located, table, found, column, first, row, held, bytes, isBytes, equal⟩ := led
  cases equal
  refine ⟨name, table, row, located, rfl, found, first, held, ?_⟩
  have stored : (row.values.getD column .null).bytes? = some content := isBytes
  rw [List.getD_eq_getElem?_getD] at stored
  cases cell : row.values[column]? with
  | none => simp [cell, Value.bytes?] at stored
  | some value =>
    rw [cell] at stored
    cases value <;> simp_all [Value.bytes?]

end Transaction

end RowPayload.Engine
