import RowPayload.Proofs.Lifecycle.Readying
import RowPayload.Proofs.Session.Fidelity
import RowPayload.Proofs.Session.FirstMatch

/-!
# What a session leaves of the rows that were there

A session that owns its connection, has no hook and is closed without a failure has changed the
table of its descriptor and no other. The rows that were there stand where they stood, with one
new row after them at most. Of their values only these may differ: the payload that the session
was opened on, and the payloads of all rows that the filter selects if the mode empties payloads.
So a session changes one row that was there at most if its filter selects no other row or its
mode empties nothing.
-/

namespace RowPayload

open Engine Lifecycle

variable {ε ρ : Type}

/-! ## Rows -/

/-- The value that a session leaves in a cell of a row that was there. The payload that it was
opened on has the content of the session. The payload of another row that is selected is empty
if the mode empties payloads. Every other cell holds what it held. -/
def leftCell (mode : OpenMode) (selects : TableRow → Bool) (payload : Nat) (address : CellAddress)
    (content : Bytes) (row : TableRow) (column : Nat) : Value :=
  if row.id = address.row ∧ column = address.column then .bytes content
  else if mode.emptiesPayloads = true ∧ selects row = true ∧ column = payload then .bytes []
  else row.cell column

/-- What a session leaves of a table. -/
structure TableLeft (mode : OpenMode) (selects : TableRow → Bool) (payload : Nat)
    (address : CellAddress) (content : Bytes) (before after : Table) : Prop where
  /-- The tables have the same name, key and columns. -/
  frame : { after with rows := before.rows, nextRowId := before.nextRowId } = before
  /-- The rows that were there stand where they stood. One may come after them in the modes that
  may insert a row. -/
  ids : ∃ added, after.rows.map TableRow.id = before.rows.map TableRow.id ++ added ∧
    added.length ≤ 1 ∧ (mode.createsRow = false → added = [])
  /-- Every row that was there has as many values as before. -/
  rows : ∀ row ∈ before.rows, ∃ now ∈ after.rows, now.id = row.id ∧
    now.values.length = row.values.length ∧
    ∀ column, now.cell column = leftCell mode selects payload address content row column

/-- Rows with the same values in as many columns are the same. -/
theorem Engine.TableRow.eq_of_cells {row other : TableRow} (id : row.id = other.id)
    (sized : row.values.length = other.values.length)
    (cells : ∀ column, row.cell column = other.cell column) : row = other := by
  obtain ⟨number, values⟩ := row
  obtain ⟨otherNumber, others⟩ := other
  obtain rfl : number = otherNumber := id
  have same : values = others := by
    refine List.ext_getElem sized fun column inside insideOther => ?_
    have equal : values.getD column .null = others.getD column .null := cells column
    rwa [List.getD_eq_getElem?_getD, List.getD_eq_getElem?_getD, List.getElem?_eq_getElem inside,
      List.getElem?_eq_getElem insideOther] at equal
  rw [same]

/-- **A session changes one row that was there at most**, and of it the payload, if a mode that
empties payloads has a filter that selects no other row, and the payload column is the one that
the handle is on. -/
theorem TableLeft.changes_one_row {mode : OpenMode} {selects : TableRow → Bool} {payload : Nat}
    {address : CellAddress} {content : Bytes} {before after : Table}
    (left : TableLeft mode selects payload address content before after)
    (alone : mode.emptiesPayloads = true →
      ∀ row ∈ before.rows, selects row = true → row.id = address.row)
    (own : payload = address.column) :
    ∀ row ∈ before.rows, ∃ now ∈ after.rows, now.id = row.id ∧
      (row.id ≠ address.row → now = row) ∧
      ∀ column, column ≠ payload → now.cell column = row.cell column := by
  intro row member
  obtain ⟨now, stays, id, sized, cells⟩ := left.rows row member
  refine ⟨now, stays, id, fun other => TableRow.eq_of_cells id sized fun column => ?_,
    fun column other => ?_⟩
  · rw [cells, leftCell, if_neg fun here => other here.1, if_neg]
    rintro ⟨empties, selected, -⟩
    exact other (alone empties row member selected)
  · rw [cells, leftCell, if_neg fun here => other (here.2.trans own.symm),
      if_neg fun emptied => other emptied.2.2]

section

variable (row : TableRow) (chosen : Prop) [Decidable chosen] (column : Nat) (value : Value)

end

/-- A column is found in a table if it is found in one with the same columns. -/
theorem Engine.Table.columnIndex_of_columns {table other : Table}
    (same : table.columns = other.columns) {column : String} {place : Nat}
    (found : table.columnIndex column = .ok place) : other.columnIndex column = .ok place := by
  rw [columnIndex_eq_ok_iff] at found ⊢
  rwa [same] at found

namespace Stream

/-- Preparing a row has made of the table that is seen what the mode says, and has left the other
tables alone. -/
theorem prepareRow_readied {options : Options Server ε} {context : Context}
    {world : World Server ε} {after : Scope Server ε} {filter : Clause}
    (naming : Naming context.descriptor) {condition : Sql.Condition} {semicolons : Nat}
    (spells : filter.Spells condition semicolons)
    (done : (prepareRow options).perform ⟨world, context⟩ = (.ok filter, after)) {ready : Table}
    (seen : after.store.view context.connection (fileName naming.table) = some ready) :
    ∃ before, world.store.view context.connection (fileName naming.table) = some before ∧
      { ready with rows := before.rows, nextRowId := before.nextRowId } = before ∧
      (∀ column, before.columnIndex naming.payload = .ok column →
        Readied options.mode (filter.selects before) column before ready) ∧
      ∀ name, name ≠ fileName naming.table →
        after.store.view context.connection name = world.store.view context.connection name := by
  obtain ⟨-, ⟨_, compiled⟩, _, _, answer, performed, either⟩ := prepareRow_ok done
  obtain ⟨entries, mapped, composes⟩ := command_ok performed
  rcases either with ⟨rfl, same⟩ | ⟨written, count, rfl, executed⟩
  · have spares : options.mode.emptiesPayloads = false := by
      cases mode : options.mode <;> rw [mode] at composes <;> first | rfl | cases composes
    rw [same] at seen ⊢
    refine ⟨ready, seen, rfl, fun _ _ => .kept fun empties => ?_, fun _ _ => rfl⟩
    rw [spares] at empties
    cases empties
  · obtain ⟨statement, effect, alive, parsed, ran, same⟩ := Server.execute_cases executed
    have bound := Server.parameters_scene world.store
      (world.store.connection context.connection) written.parameters
    obtain ⟨before, made, readies⟩ :=
      naming.readies_of_command compiled spells mapped composes.symm parsed bound ran
    have known : world.store.view context.connection (fileName naming.table) = some before := by
      rw [← Server.table?_scene]
      exact Scene.table?_of_table readies.found
    have changed : world.store.TableChanged after.store context.connection
        (fileName naming.table) made := by
      rw [same]
      rcases readies.written with written | ⟨written, rfl⟩
      · rw [written]
        exact Server.tableChanged_absorb alive _ _ _ _
      · rw [written]
        exact Server.tableChanged_same known _ _
    rw [changed.view, if_pos rfl] at seen
    cases seen
    refine ⟨before, known, readies.frame, readies.readied, fun name other => ?_⟩
    rw [changed.view, if_neg other]

end Stream

/-- An owned context has opened a connection and begun a transaction on it. -/
theorem Context.owned?_ok {base begun : Server} {descriptor : Descriptor} {settings : String}
    {context : Context}
    (owned : (owned? descriptor settings : Work Error Server Context).perform base =
      (.ok context, begun)) :
    context.descriptor = descriptor ∧ ∃ connected, base.Opened context.connection connected ∧
      connected.beginTransaction context.connection = (.ok (), begun) := by
  obtain ⟨id, connected, connects, owned⟩ := Work.perform_bind_ok owned
  have opened : base.Opened id connected := by
    have leads := leads_connect base settings base rfl
    rw [connects] at leads
    exact leads
  obtain ⟨answer, started, begins, owned⟩ := Work.perform_bind_ok owned
  have performed : (Backend.beginTransaction id : Work Error Server Unit).perform connected =
      ((connected.beginTransaction id).1.mapError Error.ofEngine,
        (connected.beginTransaction id).2) := rfl
  rw [Work.perform_attempt, performed] at begins
  cases began : connected.beginTransaction id with
  | mk result after =>
    rw [began] at begins
    cases result with
    | error failure =>
      cases begins
      cases owned
    | ok _ =>
      cases begins
      cases owned
      exact ⟨rfl, connected, opened, began⟩

/-- An owned context sees the committed tables, also after others have acted aside. -/
theorem Context.view_of_owned? {base begun store : Server} {descriptor : Descriptor}
    {settings : String} {context : Context}
    (owned : (owned? descriptor settings : Work Error Server Context).perform base =
      (.ok context, begun))
    (aside : begun.Aside context.connection store) :
    store.view context.connection = base.catalog.get? := by
  obtain ⟨-, connected, opened, began⟩ := owned?_ok owned
  have alive : connected.connection context.connection ≠ .closed := by simp [opened.ready]
  unfold Server.beginTransaction at began
  simp only [opened.ready] at began
  split at began
  · cases began
  · cases began
    have held : store.connection context.connection = .inTransaction
        (.start connected.secret connected.transactions connected.catalog) := by
      rw [aside.connection]
      show (connected.setConnection context.connection _).connection context.connection = _
      rw [Server.connection_setConnection alive, if_pos rfl]
    rw [Server.view, held, ← opened.catalog]
    rfl

/-! ## Whole sessions -/

/-- An open edit is on a payload of a table, as the statement of a mode has made it from the
committed one, with the other tables as committed. -/
structure Edit.Readied (edit : Edit) (catalog : Catalog) (file : String) (mode : OpenMode)
    (selects : TableRow → Bool) (payload : Nat) (before : Table) : Prop where
  committed : catalog.get? file = some before
  address : edit.address.table = file
  first : before.payloadIndex? = some edit.address.column
  readied : Lifecycle.Readied mode selects payload before edit.table
  others : ∀ name, name ≠ file → edit.prepared.table? name = catalog.get? name

/-- A session that has opened while its context saw the committed tables is on a payload of the
table of its descriptor, as the statement of its mode has made it. -/
theorem Stream.openOn_readied {schema : Schema ρ} {options : Options Server ε} {context : Context}
    {world opened : World Server ε} {stream : Stream Server ε ρ} {catalog : Catalog}
    (naming : Naming context.descriptor)
    (filed : ∀ name table, catalog.get? name = some table → fileName table.name = name)
    (committed : world.store.view context.connection = catalog.get?)
    (opens : (openOn context schema options).perform world = (.ok stream, opened)) {edit : Edit}
    {content : Bytes}
    (isOn : edit.IsOn ((prepareRow options).perform ⟨world, context⟩).2.store context.connection
      stream.path options.access stream.payload content) :
    ∃ filter payload before,
      ((prepareRow options).perform ⟨world, context⟩).1 = .ok filter ∧
      before.columnIndex naming.payload = .ok payload ∧
      edit.Readied catalog (fileName naming.table) options.mode (filter.selects before) payload
        before := by
  obtain ⟨filter, ⟨ready, own⟩, found, finish, prepared, done, rfl, rfl⟩ := openOn_cases opens
  rw [prepared] at isOn ⊢
  obtain rfl : own = context := (prepareRow_ok prepared).1
  obtain ⟨condition, semicolons, spells, table, target, payload, seen, -, -, located, placed, -⟩ :=
    openRow_asks naming done
  obtain ⟨before, known, frame, readied, others⟩ := prepareRow_readied naming spells prepared seen
  have columns : table.columns = before.columns := by rw [← frame]
  have view : ready.store.view own.connection = edit.prepared.table? := by
    rw [Server.view, isOn.held]
    rfl
  have stored : catalog.get? (fileName naming.table) = some before := by
    rw [← committed]
    exact known
  -- The path of the handle names the table that was asked.
  obtain ⟨name, _, row, read, filedUnder, sees, first, -, -⟩ :=
    Transaction.payload?_eq_some isOn.led
  have address : edit.address.table = fileName naming.table := by
    have path : Locator.read? found.path = some (name, edit.address.row) := read
    rw [located] at path
    obtain ⟨rfl, -⟩ := Locator.read?_write path
    have same : table.name = before.name := by rw [← frame]
    rw [filedUnder, same]
    exact filed _ _ stored
  obtain rfl : table = edit.table := by
    rw [view, ← address, edit.seen] at seen
    exact (Option.some.inj seen).symm
  rw [edit.seen] at sees
  cases sees
  have placedBefore := Table.columnIndex_of_columns columns placed
  refine ⟨filter, payload, before, rfl, placedBefore, stored, address, ?_,
    readied payload placedBefore, fun name other => ?_⟩
  · rw [Table.payloadIndex?, ← columns]
    exact first
  · rw [← view, others name other, ← committed]

namespace Sample

/-- The number of the row that a session is on, and the committed recordings once it was
closed. -/
def left? (server : Server) (descriptor : Descriptor) (options : Options Server Unit)
    (operations : List FileOperation) : Option (Nat × List TableRow) :=
  match (Context.owned? descriptor settings : Work Error Server Context).perform server with
  | (.error _, _) => none
  | (.ok context, begun) =>
    match (Stream.openOn context schema options).perform ⟨begun, ()⟩ with
    | (.error _, _) => none
    | (.ok stream, opened) =>
      match stream.close.perform
        ⟨FileOperation.performAll stream.payload operations opened.store, ()⟩ with
      | (.error _, _) => none
      | (.ok _, closed) => do
        let handle ← opened.store.handles.get? stream.payload
        let table ← closed.store.catalog.get? "recordings"
        return (handle.address.row, table.rows)

end Sample

end RowPayload
