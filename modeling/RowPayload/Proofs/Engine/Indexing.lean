import RowPayload.Proofs.Engine.Locators
import RowPayload.Proofs.Engine.WellFormed

/-!
# Indices stay in range

Values of rows and columns of tables are reached by their places. Statements, payloads that are
opened and handles that are written back are told here once more with every place checked, and
come to no result where a place is out of range. On a server whose tables were made column by
column they come to the results they have come to without the checks: the places come from the
columns of a table, whose rows have a value for each.
-/

namespace RowPayload

namespace Engine

open Sql (Operand Condition SelectItem Select Statement)

/-- Work that checks the indices it uses. It comes to a value or a failure, and to neither where
an index is out of range. -/
abbrev Indexed (φ α : Type) := ExceptT φ Option α

namespace Indexed

variable {φ α β : Type}

/-! ## Checked indices -/

/-- A result that takes no index. -/
def ofResult (result : Except φ α) : Indexed φ α := ExceptT.mk (some result)

/-- Something that has to be there, or the work fails. -/
def required (failure : φ) (found : Option α) : Indexed φ α :=
  ofResult (found.elim (.error failure) .ok)

/-- The element at an index. -/
def read (elements : List α) (index : Nat) : Indexed φ α :=
  ExceptT.mk (elements[index]?.map .ok)

/-- The elements with another one at an index. -/
def write (elements : List α) (index : Nat) (element : α) : Indexed φ (List α) :=
  ExceptT.mk (if index < elements.length then some (.ok (elements.set index element)) else none)

/-! ## Conditions -/

/-- The value in a column of a row, found by the column's name. -/
def columnValue (table : Table) (row : TableRow) (name : String) : Indexed Failure Value := do
  let index ← ofResult (table.columnIndex name)
  read row.values index

/-- The value of an operand, with a way to read columns. -/
def operandValue (parameters : List Parameter) (column : String → Indexed Failure Value) :
    Operand → Indexed Failure Value
  | .column name => column name
  | constant => ofResult (constantValue parameters constant)

/-- Whether a condition holds, with a way to evaluate operands. -/
def holds (value : Operand → Indexed Failure Value) : Condition → Indexed Failure Bool
  | .equal left right => do
    let leftValue ← value left
    let rightValue ← value right
    return leftValue.sqlEqual rightValue
  | .both left right => do
    if ← holds value left then holds value right else return false
  | .either left right => do
    if ← holds value left then return true else holds value right

/-- Whether a row passes a filter. -/
def passes (parameters : List Parameter) (table : Table) (filter : Option Condition)
    (row : TableRow) : Indexed Failure Bool :=
  match filter with
  | none => return true
  | some condition => holds (operandValue parameters (columnValue table row)) condition

/-! ## Rows -/

/-- The first row whose key equals a value. -/
def rowByKey? (table : Table) (key : Value) : Indexed φ (Option TableRow) :=
  match table.key with
  | none => return none
  | some column => table.rows.findM? fun row => do
    return (← read row.values column).sqlEqual key

/-- The key that keeps values from being inserted, because a row has it already. -/
def takenKey? (table : Table) (values : List Value) : Indexed φ (Option Value) :=
  match table.key with
  | none => return none
  | some column => do
    let key ← read values column
    return if (← rowByKey? table key).isSome then some key else none

/-- The table with a further row of values, whose key must be new. -/
def grow (table : Table) (values : List Value) : Indexed Failure Table := do
  match ← takenKey? table values with
  | some key => throw (.duplicateKey table.name key.toText)
  | none => return { table with
      rows := table.rows ++ [⟨table.nextRowId, values⟩]
      nextRowId := table.nextRowId + 1 }

/-- The row with other values in some columns. -/
def assign (row : TableRow) (cells : List (Nat × Value)) : Indexed φ TableRow := do
  let values ← cells.foldlM (fun values cell => write values cell.1 cell.2) row.values
  return { row with values := values }

/-! ## Statements -/

/-- Insert a row of constants; the columns not named hold null. -/
def insert (scene : Scene) (name : String) (columns : List String) (operands : List Operand) :
    Indexed Failure Effect := do
  let table ← ofResult (scene.table name)
  if columns.length ≠ operands.length then throw (.columnCount name)
  let cells ← ofResult (scene.resolve table (columns.zip operands))
  let row ← assign ⟨table.nextRowId, List.replicate table.columns.length .null⟩ cells
  let grown ← grow table row.values
  return ⟨some (fileName name, grown), 1, 0, .affected 1⟩

/-- Assign constants to columns of the rows that pass a filter. -/
def update (scene : Scene) (name : String) (assignments : List (String × Operand))
    (filter : Option Condition) : Indexed Failure Effect := do
  let table ← ofResult (scene.table name)
  let cells ← ofResult (scene.resolve table assignments)
  let marked ← table.rows.mapM fun row => do
    return (row, ← passes scene.parameters table filter row)
  let count := marked.countP Prod.snd
  let rows ← marked.mapM fun (row, matched) => if matched then assign row cells else return row
  return ⟨if count = 0 then none else some (fileName name, { table with rows := rows }), 0, count,
    .affected count⟩

/-- The name of a selected item in the result. -/
def itemName (table : Table) : SelectItem → Indexed Failure String
  | .column name => do
    let index ← ofResult (table.columnIndex name)
    return (← read table.columns index).name
  | _ => return ""

/-- The path locator of a row, asked for by a column that has to hold payloads. -/
def pathName (table : Table) (row : TableRow) (column : String) : Indexed Failure Value := do
  let index ← ofResult (table.columnIndex column)
  unless (← read table.columns index).isPayload do
    throw (.badSyntax (.noPayloadColumn column))
  return if (← read row.values index).isNull then .null
    else .text (Locator.write table.name row.id)

/-- The value of a selected item on a row. -/
def project (scene : Scene) (table : Table) (row : TableRow) : SelectItem → Indexed Failure Value
  | .one => return .int 1
  | .transactionContext => return scene.token.elim .null .bytes
  | .column name => columnValue table row name
  | .pathName column => pathName table row column

/-- The selected items of the rows that pass a filter. -/
def selectRows (scene : Scene) (table : Table) (query : Select) :
    List TableRow → Indexed Failure (List (List Value))
  | [] => return []
  | row :: rest => do
    if ← passes scene.parameters table query.filter row then
      let values ← query.items.mapM (project scene table row)
      let others ← selectRows scene table query rest
      return values :: others
    else selectRows scene table query rest

/-- Select rows. -/
def select (scene : Scene) (query : Select) : Indexed Failure ResultSet := do
  let table ← ofResult (scene.table query.table)
  let columns ← query.items.mapM (itemName table)
  let rows ← selectRows scene table query table.rows
  return ⟨columns, rows⟩

/-- Run a statement. -/
def run (scene : Scene) : Statement → Indexed Failure Effect
  | .insert table columns operands => insert scene table columns operands
  | .update table assignments filter => update scene table assignments filter
  | .select query => do
    let result ← select scene query
    return .reading (.rows result)
  | .conditional negated probe body => do
    let found ← select scene probe
    if found.rows.isEmpty = negated then run scene body else return .reading (.affected 0)
  | .branch negated probe body otherwise => do
    let found ← select scene probe
    if found.rows.isEmpty = negated then run scene body else run scene otherwise

/-! ## Payloads -/

/-- The cell that a path locator leads to, and the payload in it. -/
def payload (transaction : Transaction) (path : String) :
    Indexed Failure (CellAddress × Bytes) := do
  let (name, id) ← required (.invalidPath path) (Locator.read? path)
  let table ← required (.invalidPath path) (transaction.table? (fileName name))
  let column ← required (.invalidPath path) table.payloadIndex?
  let row ← required (.invalidPath path) (table.row? id)
  let content ← required (.invalidPath path) (← read row.values column).bytes?
  return (⟨fileName name, id, column⟩, content)

/-- The transaction after writing one cell, if the cell's row is there. -/
def writeCell (transaction : Transaction) (address : CellAddress) (value : Value) :
    Indexed IoFault Transaction := do
  let table ← required .rowGone (transaction.table? address.table)
  let row ← required .rowGone (table.row? address.row)
  let values ← write row.values address.column value
  return transaction.writeTable address.table { table with
    rows := table.rows.map fun other => if other.id = row.id then ⟨row.id, values⟩ else other }

/-! ## Work that stays in range -/

/-- No index is out of range, and the result is the one told. -/
def StaysIn (work : Indexed φ α) (result : Except φ α) : Prop := ExceptT.run work = some result

namespace StaysIn

variable {work : Indexed φ α} {result : Except φ α}

/-- Work that stays in range stays there together with further work that does, on every value it
comes to. -/
theorem bind (stays : work.StaysIn result) {next : α → Indexed φ β} {follow : α → Except φ β}
    (further : ∀ value, result = .ok value → (next value).StaysIn (follow value)) :
    StaysIn (work >>= next) (result >>= follow) := by
  have unfolded : ExceptT.run (work >>= next) = ExceptT.run work >>= ExceptT.bindCont next := rfl
  rw [StaysIn, unfolded, stays]
  cases result with
  | error failure => rfl
  | ok value => exact further value rfl

/-- Work that comes to a value stays in range together with the work that goes on from there. -/
theorem bind_ok {value : α} (stays : work.StaysIn (.ok value)) {next : α → Indexed φ β}
    {result : Except φ β} (further : (next value).StaysIn result) :
    StaysIn (work >>= next) result := by
  show StaysIn _ ((.ok value : Except φ α) >>= fun _ => result)
  exact stays.bind fun _ same => Except.ok.inj same ▸ further

/-- Work that stays in range stays there on every element of a list. -/
theorem mapM {work : α → Indexed φ β} {result : α → Except φ β} {elements : List α}
    (stays : ∀ element ∈ elements, (work element).StaysIn (result element)) :
    StaysIn (elements.mapM work) (elements.mapM result) := by
  induction elements with
  | nil => rfl
  | cons first rest inductionHypothesis =>
    rw [List.mapM_cons, List.mapM_cons]
    refine (stays first List.mem_cons_self).bind fun value _ => ?_
    refine bind (inductionHypothesis fun element member =>
      stays element (List.mem_cons_of_mem _ member)) fun others _ => ?_
    rfl

/-- Work that comes to a value on every element of a list stays in range. -/
theorem mapM_ok {work : α → Indexed φ β} {value : α → β} {elements : List α}
    (stays : ∀ element ∈ elements, (work element).StaysIn (.ok (value element))) :
    StaysIn (elements.mapM work) (.ok (elements.map value)) := by
  have told : (elements.mapM fun element => (.ok (value element) : Except φ β)) =
      .ok (elements.map value) :=
    Checked.mapM_ok fun _ _ => rfl
  rw [← told]
  exact mapM stays

/-- Work on something that has to be there stays in range if it does on what is there. -/
theorem required {failure : φ} {found : Option α} {next : α → Indexed φ β} {follow : α → Option β}
    (further : ∀ value, found = some value →
      (next value).StaysIn ((follow value).elim (.error failure) .ok)) :
    StaysIn (Indexed.required failure found >>= next)
      ((found >>= follow).elim (.error failure) .ok) := by
  cases found with
  | none => rfl
  | some value => exact further value rfl

/-- A search stays in range if the test does on every element. -/
theorem findM? {test : α → Indexed φ Bool} {passes : α → Bool} {elements : List α}
    (stays : ∀ element ∈ elements, (test element).StaysIn (.ok (passes element))) :
    StaysIn (elements.findM? test) (.ok (elements.find? passes)) := by
  induction elements with
  | nil => rfl
  | cons first rest inductionHypothesis =>
    refine (stays first List.mem_cons_self).bind_ok ?_
    rw [List.find?_cons]
    cases passes first with
    | true => rfl
    | false =>
      exact inductionHypothesis fun element member => stays element (List.mem_cons_of_mem _ member)

end StaysIn

variable {scene : Scene} {table : Table} {row : TableRow}

/-- An index below the length is in range. -/
theorem staysIn_read {elements : List α} {index : Nat} (inside : index < elements.length) :
    (read elements index : Indexed φ α).StaysIn (.ok elements[index]) := by
  simp [StaysIn, read, inside]

/-- An element is written in range at an index below the length. -/
theorem staysIn_write {elements : List α} {index : Nat} (inside : index < elements.length)
    (element : α) :
    (write elements index element : Indexed φ (List α)).StaysIn
      (.ok (elements.set index element)) := by
  simp [StaysIn, write, inside]

/-- The value in a column is in range if there is one. -/
theorem staysIn_value {values : List Value} {column : Nat} (inside : column < values.length) :
    (read values column : Indexed φ Value).StaysIn (.ok (values.getD column .null)) := by
  rw [List.getD_eq_getElem?_getD, List.getElem?_eq_getElem inside, Option.getD_some]
  exact staysIn_read inside

/-- Values below the length of a list are written in range. -/
theorem staysIn_foldlM_write {cells : List (Nat × Value)} {values : List Value}
    (inside : ∀ cell ∈ cells, cell.1 < values.length) :
    StaysIn (φ := φ) (cells.foldlM (fun values cell => write values cell.1 cell.2) values)
      (.ok (cells.foldl (fun values cell => values.set cell.1 cell.2) values)) := by
  induction cells generalizing values with
  | nil => rfl
  | cons cell rest inductionHypothesis =>
    obtain ⟨here, others⟩ := List.forall_mem_cons.1 inside
    rw [List.foldlM_cons, List.foldl_cons]
    refine (staysIn_write here cell.2).bind_ok (inductionHypothesis fun next member => ?_)
    rw [List.length_set]
    exact others next member

/-- Cells below the length of a row are assigned in range. -/
theorem staysIn_assign {cells : List (Nat × Value)}
    (inside : ∀ cell ∈ cells, cell.1 < row.values.length) :
    (assign row cells : Indexed φ TableRow).StaysIn (.ok (row.assign cells)) :=
  (staysIn_foldlM_write inside).bind fun _ _ => rfl

/-! ### Conditions -/

/-- A column of a row that has a value for each column of its table is read in range. -/
theorem staysIn_columnValue (full : row.values.length = table.columns.length) (name : String) :
    (columnValue table row name).StaysIn (Engine.columnValue table row name) := by
  have unfolded : Engine.columnValue table row name =
      table.columnIndex name >>= fun index => .ok (row.cell index) := by
    rw [Engine.columnValue]
    cases table.columnIndex name <;> rfl
  rw [unfolded]
  refine StaysIn.bind rfl fun index found => staysIn_value ?_
  exact full ▸ Table.lt_of_columnIndex found

/-- An operand is evaluated in range if columns are read in range. -/
theorem staysIn_operandValue {column : String → Indexed Failure Value}
    {value : String → Except Failure Value} (stays : ∀ name, (column name).StaysIn (value name))
    (parameters : List Parameter) (operand : Operand) :
    (operandValue parameters column operand).StaysIn
      (Engine.operandValue parameters value operand) := by
  cases operand with
  | column name => exact stays name
  | _ => rfl

/-- A condition is evaluated in range if its operands are. -/
theorem staysIn_holds {value : Operand → Indexed Failure Value}
    {told : Operand → Except Failure Value}
    (stays : ∀ operand, (value operand).StaysIn (told operand)) (condition : Condition) :
    (holds value condition).StaysIn (Engine.holds told condition) := by
  induction condition with
  | equal left right => exact (stays left).bind fun _ _ => (stays right).bind fun _ _ => rfl
  | both left right leftHypothesis rightHypothesis =>
    refine leftHypothesis.bind fun found _ => ?_
    cases found with
    | true => exact rightHypothesis
    | false => rfl
  | either left right leftHypothesis rightHypothesis =>
    refine leftHypothesis.bind fun found _ => ?_
    cases found with
    | true => rfl
    | false => exact rightHypothesis

/-- A filter is evaluated in range on a row that has a value for each column. -/
theorem staysIn_passes (full : row.values.length = table.columns.length)
    (parameters : List Parameter) (filter : Option Condition) :
    (passes parameters table filter row).StaysIn (Engine.passes parameters table filter row) := by
  cases filter with
  | none => rfl
  | some condition =>
    exact staysIn_holds (staysIn_operandValue (staysIn_columnValue full) parameters) condition

/-! ### Rows -/

/-- A row of a well-formed table is looked up by its key in range. -/
theorem staysIn_rowByKey? (wellFormed : table.WellFormed) (key : Value) :
    (rowByKey? table key : Indexed φ (Option TableRow)).StaysIn (.ok (table.rowByKey? key)) := by
  rw [rowByKey?, Table.rowByKey?]
  cases keyed : table.key with
  | none => rfl
  | some column =>
    refine StaysIn.findM? fun row member => (staysIn_value ?_).bind fun _ _ => rfl
    exact wellFormed.full row member ▸ wellFormed.keyed column keyed

/-- The key of a row with a value for each column is looked up in range. -/
theorem staysIn_takenKey? (wellFormed : table.WellFormed) {values : List Value}
    (sized : values.length = table.columns.length) :
    (takenKey? table values : Indexed φ (Option Value)).StaysIn (.ok (table.takenKey? values)) := by
  rw [takenKey?, Table.takenKey?]
  cases keyed : table.key with
  | none => rfl
  | some column =>
    have inside : column < values.length := sized ▸ wellFormed.keyed column keyed
    exact (staysIn_value inside).bind_ok ((staysIn_rowByKey? wellFormed _).bind_ok rfl)

/-- A row with a value for each column is inserted into a well-formed table in range. -/
theorem staysIn_grow (wellFormed : table.WellFormed) {values : List Value}
    (sized : values.length = table.columns.length) :
    (grow table values).StaysIn (table.insert values) := by
  refine (staysIn_takenKey? wellFormed sized).bind_ok ?_
  rw [Table.insert]
  cases table.takenKey? values with
  | none => rfl
  | some key => rfl

/-! ### Statements -/

/-- The cells that assignments stand for are those of columns of the table. -/
theorem lt_of_resolve {assignments : List (String × Operand)} {cells : List (Nat × Value)}
    (resolved : scene.resolve table assignments = .ok cells) :
    ∀ cell ∈ cells, cell.1 < table.columns.length := by
  intro cell member
  obtain ⟨_, _, found⟩ := Scene.columnIndex_of_resolve resolved cell member
  exact Table.lt_of_columnIndex found

/-- Rows are inserted in range. -/
theorem staysIn_insert (wellFormed : scene.WellFormed) (name : String) (columns : List String)
    (operands : List Operand) :
    (insert scene name columns operands).StaysIn (scene.insert name columns operands) := by
  refine StaysIn.bind rfl fun table found => ?_
  have known := wellFormed _ table (Scene.table?_of_table found)
  split
  · rfl
  · refine StaysIn.bind rfl fun cells resolved => ?_
    refine StaysIn.bind_ok (staysIn_assign fun cell member => ?_) ?_
    · simpa using lt_of_resolve resolved cell member
    · exact (staysIn_grow known (by simp)).bind fun _ _ => rfl

/-- Rows are updated in range. -/
theorem staysIn_update (wellFormed : scene.WellFormed) (name : String)
    (assignments : List (String × Operand)) (filter : Option Condition) :
    (update scene name assignments filter).StaysIn (scene.update name assignments filter) := by
  refine StaysIn.bind rfl fun table found => StaysIn.bind rfl fun cells resolved => ?_
  have known := wellFormed _ table (Scene.table?_of_table found)
  refine (StaysIn.mapM fun row member => ?_).bind fun marked marks => ?_
  · exact (staysIn_passes (known.full row member) scene.parameters filter).bind fun _ _ => rfl
  · refine (StaysIn.mapM_ok fun entry member => ?_).bind_ok rfl
    obtain ⟨row, matched⟩ := entry
    have there : row ∈ table.rows :=
      Scene.map_fst_marked marks ▸ List.mem_map_of_mem (f := Prod.fst) member
    cases matched with
    | false => rfl
    | true => exact staysIn_assign fun cell assigned =>
        known.full row there ▸ lt_of_resolve resolved cell assigned

/-- The name of a selected item is found in range. -/
theorem staysIn_itemName (item : SelectItem) :
    (itemName table item).StaysIn (Scene.itemName table item) := by
  cases item with
  | column name =>
    refine StaysIn.bind rfl fun index found => ?_
    have inside := Table.lt_of_columnIndex found
    refine (staysIn_read inside).bind_ok ?_
    rw [List.getElem?_eq_getElem inside]
    rfl
  | _ => rfl

/-- The path locator of a row is found in range. -/
theorem staysIn_pathName (full : row.values.length = table.columns.length) (column : String) :
    (pathName table row column).StaysIn (Scene.pathName table row column) := by
  refine StaysIn.bind rfl fun index found => ?_
  have inside := Table.lt_of_columnIndex found
  refine (staysIn_read inside).bind_ok ?_
  rw [List.getElem?_eq_getElem inside, Option.map_some, Option.getD_some]
  cases table.columns[index].isPayload with
  | false => rfl
  | true => exact (staysIn_value (full ▸ inside)).bind_ok rfl

/-- A selected item is evaluated in range. -/
theorem staysIn_project (full : row.values.length = table.columns.length) (item : SelectItem) :
    (project scene table row item).StaysIn (scene.project table row item) := by
  cases item with
  | column name => exact staysIn_columnValue full name
  | pathName column => exact staysIn_pathName full column
  | _ => rfl

/-- Rows with a value for each column are selected in range. -/
theorem staysIn_selectRows (query : Select) {rows : List TableRow}
    (full : ∀ row ∈ rows, row.values.length = table.columns.length) :
    (selectRows scene table query rows).StaysIn (scene.selectRows table query rows) := by
  induction rows with
  | nil => rfl
  | cons row rest inductionHypothesis =>
    obtain ⟨here, others⟩ := List.forall_mem_cons.1 full
    refine (staysIn_passes here scene.parameters query.filter).bind fun found _ => ?_
    cases found with
    | true =>
      refine (StaysIn.mapM fun item _ => staysIn_project here item).bind fun values _ => ?_
      exact (inductionHypothesis others).bind fun _ _ => rfl
    | false => exact inductionHypothesis others

/-- Rows are selected in range. -/
theorem staysIn_select (wellFormed : scene.WellFormed) (query : Select) :
    (select scene query).StaysIn (scene.select query) := by
  refine StaysIn.bind rfl fun table found => ?_
  have known := wellFormed _ table (Scene.table?_of_table found)
  refine (StaysIn.mapM fun item _ => staysIn_itemName item).bind fun columns _ => ?_
  exact (staysIn_selectRows query known.full).bind fun _ _ => rfl

/-- **Statements run in range** on well-formed tables. -/
theorem staysIn_run (wellFormed : scene.WellFormed) (statement : Statement) :
    (run scene statement).StaysIn (scene.run statement) := by
  induction statement with
  | insert table columns operands => exact staysIn_insert wellFormed table columns operands
  | update table assignments filter => exact staysIn_update wellFormed table assignments filter
  | select query =>
    have unfolded : scene.run (.select query) =
        scene.select query >>= fun result => .ok (.reading (.rows result)) := by
      rw [Scene.run]
      cases scene.select query <;> rfl
    rw [unfolded]
    exact (staysIn_select wellFormed query).bind fun _ _ => rfl
  | conditional negated probe body inductionHypothesis =>
    refine (staysIn_select wellFormed probe).bind fun found _ => ?_
    split
    · exact inductionHypothesis
    · rfl
  | branch negated probe body otherwise bodyHypothesis otherwiseHypothesis =>
    refine (staysIn_select wellFormed probe).bind fun found _ => ?_
    split
    · exact bodyHypothesis
    · exact otherwiseHypothesis

/-! ### Payloads -/

/-- A path is followed in range through tables whose rows have a value for each column. -/
theorem staysIn_payload {transaction : Transaction}
    (wellFormed : ∀ name table, transaction.table? name = some table → table.WellFormed)
    (path : String) : (payload transaction path).StaysIn
      ((transaction.payload? path).elim (.error (.invalidPath path)) .ok) := by
  refine StaysIn.required fun ⟨name, id⟩ _ => ?_
  refine StaysIn.required fun table seen => ?_
  refine StaysIn.required fun column first => ?_
  refine StaysIn.required fun row found => ?_
  have inside : column < row.values.length := by
    rw [(wellFormed _ table seen).full row (List.mem_of_find?_eq_some found)]
    exact (List.findIdx?_eq_some_iff_findIdx_eq.1 first).1
  refine (staysIn_value inside).bind_ok ?_
  exact StaysIn.required fun content _ => rfl

/-- A cell that is there is written in range, and no other row is written. -/
theorem staysIn_writeCell {place : HandlePlace} {transaction : Transaction} {table : Table}
    (cellIn : place.CellIn transaction table) (sound : table.Sound) (value : Value) :
    ∃ changed, transaction.writeCell? place.address value = some changed ∧
      (writeCell transaction place.address value).StaysIn (.ok changed) := by
  obtain ⟨row, found⟩ := Table.exists_row? cellIn.row
  have member : row ∈ table.rows := List.mem_of_find?_eq_some found
  have inside : place.address.column < row.values.length := by
    rw [sound.full row member]
    exact (List.findIdx?_eq_some_iff_findIdx_eq.1 cellIn.column).1
  have written : transaction.writeCell? place.address value = some (transaction.writeTable
      place.address.table (table.setCell row.id place.address.column value)) := by
    simp only [Transaction.writeCell?, cellIn.seen, found, Option.bind_eq_bind, Option.bind_some]
    rfl
  have rows : (table.rows.map fun other => if other.id = row.id then
        ⟨row.id, row.values.set place.address.column value⟩ else other) =
      (table.setCell row.id place.address.column value).rows := by
    refine List.map_congr_left fun other there => ?_
    split
    · rename_i same
      rw [sound.eq_of_id member there same]
      rfl
    · rfl
  refine ⟨_, written, ?_⟩
  have seen : (required IoFault.rowGone (transaction.table? place.address.table)).StaysIn
      (.ok table) := by
    rw [cellIn.seen]
    rfl
  have shown : (required IoFault.rowGone (table.row? place.address.row)).StaysIn (.ok row) := by
    rw [found]
    rfl
  refine seen.bind_ok (shown.bind_ok ((staysIn_write inside value).bind_ok ?_))
  rw [rows]
  rfl

end Indexed

namespace Server

/-- Wherever a server uses an index, the index is in range: nothing comes out differently if
every index is checked. -/
structure IndexesWithin (server : Server) : Prop where
  /-- Statements that are run on a connection, within a transaction or outside. -/
  statements : ∀ id parameters statement,
    (Indexed.run (server.scene (server.connection id) parameters) statement).StaysIn
      ((server.scene (server.connection id) parameters).run statement)
  /-- Rows that are looked up by their keys. -/
  keys : server.Tables fun _ table => ∀ key,
    (Indexed.rowByKey? table key : Indexed Failure (Option TableRow)).StaysIn
      (.ok (table.rowByKey? key))
  /-- Paths that are followed within a transaction. -/
  opening : ∀ id transaction, server.connection id = .inTransaction transaction → ∀ path,
    (Indexed.payload transaction path).StaysIn
      ((transaction.payload? path).elim (.error (.invalidPath path)) .ok)
  /-- Handles that are open and whose transaction goes on: their cell is there to be written. -/
  writing : ∀ number handle transaction, server.handles.get? number = some handle →
    handle.isOpen = true → server.transactionOf? handle = some transaction → ∀ value,
      ∃ changed, transaction.writeCell? handle.address value = some changed ∧
        (Indexed.writeCell transaction handle.address value).StaysIn (.ok changed)

/-- **Stored tables stay well formed, and no index is ever out of range**: whatever a server is
asked for whose tables were made column by column, the committed tables and those that
transactions see are well formed, and statements, payloads that are opened and handles that are
written back use indices that are in range. -/
theorem tables_wellFormed_and_indexed {server : Server} (founded : server.Founded) :
    (server.Tables fun _ table => table.WellFormed) ∧ server.IndexesWithin := by
  have tables := founded.tables
  refine ⟨tables, ?_, ?_, ?_, ?_⟩
  · exact fun id parameters statement => Indexed.staysIn_run (tables.scene id parameters) statement
  · exact ⟨fun name table found => Indexed.staysIn_rowByKey? (tables.catalog name table found),
      fun id transaction held name table found =>
        Indexed.staysIn_rowByKey? (tables.transactions id transaction held name table found)⟩
  · exact fun id transaction held path =>
      Indexed.staysIn_payload (tables.transactions id transaction held) path
  · intro number handle transaction found isOpen active value
    obtain ⟨held, same⟩ := connection_of_transactionOf? active
    obtain ⟨table, cellIn, sound⟩ :=
      founded.reachable.cellThere found isOpen transaction held same
    exact Indexed.staysIn_writeCell cellIn sound value

end Server

end Engine

namespace Sample

open Engine

/-- The archive whose recordings were given another table while the sound of one is open. -/
def refiled : Server := (Request.createTable table rfl).serve openedSound

/-- The tables of the archive were made column by column. -/
theorem founded_refiled : refiled.Founded := by
  have built : table.Built := .withPayload (.withColumn (.withKey (.empty _) _) _) _
  have recorded : recordedInTransaction.Founded :=
    .serve (.serve (.serve founded_server (.connect settings) trivial) (.execute 0 (insertion 7))
      trivial) (.beginTransaction 0) trivial
  have opened : openedSound.Founded := .serve recorded (.openPayload 0 _ _ .readWrite) trivial
  exact .serve opened (.createTable table rfl) built

end Sample

namespace Engine.Server

/-- A sound that is open can be written in the transaction it was opened in, with every index in
range, although its row is not in the table anymore that is committed meanwhile. -/
theorem tables_wellFormed_and_indexed_refiled :
    Sample.refiled.Founded ∧ Sample.refiled.rowCount "Recordings" = 0 ∧
      ∃ handle transaction changed, Sample.refiled.handles.get? 0 = some handle ∧
        Sample.refiled.transactionOf? handle = some transaction ∧
        (Indexed.writeCell transaction handle.address (.bytes [1, 2])).StaysIn (.ok changed) := by
  have live : (Sample.refiled.handles.get? 0).any (fun handle =>
      handle.isOpen && (Sample.refiled.transactionOf? handle).isSome) = true := by
    decide +kernel
  obtain ⟨handle, found, live⟩ := (Option.any_eq_true _ _).1 live
  obtain ⟨isOpen, active⟩ := Bool.and_eq_true_iff.1 live
  obtain ⟨transaction, active⟩ := Option.isSome_iff_exists.1 active
  obtain ⟨-, within⟩ := tables_wellFormed_and_indexed Sample.founded_refiled
  obtain ⟨changed, -, written⟩ :=
    within.writing 0 handle transaction found isOpen active (.bytes [1, 2])
  exact ⟨Sample.founded_refiled, by decide +kernel, handle, transaction, changed, found, active,
    written⟩

end Engine.Server

end RowPayload
