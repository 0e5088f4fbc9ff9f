import RowPayload.Proofs.Session.Reopening

/-!
# Records come back

A session inserts the record of a new row and closes; another one opens the row and is given the
record again. The two meet in what is kept in between: a row whose cells hold the fields of the
record, committed or in a transaction that goes on. The first half follows the values from the
insertion to that row, through whatever is done with the payload, and the second half reads them
from it.

The payload of a row is found in the first column for payloads of its table. What a session writes
goes there, so that no other field may be kept in it.
-/

namespace RowPayload

open Engine Lifecycle

variable {ε ρ : Type}

namespace Stream

variable {schema : Schema ρ} {options : Options Server ε} {table : Table}

/-- Preparing the row of a record in a transaction adds it to the table that is seen, which the
transaction has written then. -/
theorem prepareRow_adds {context : Context} {world : World Server ε} {after : Scope Server ε}
    (layout : context.descriptor.Layout table) (separates : context.descriptor.Separates schema)
    (record : ρ) (creates : options.mode = .createNew)
    (given : options.newRow = some (NewRow.ofRecord schema record)) (sound : world.store.Sound)
    {transaction : Transaction}
    (held : world.store.connection context.connection = .inTransaction transaction)
    (seen : world.store.view context.connection layout.file = some table) {filter : Clause}
    (done : (prepareRow options).perform ⟨world, context⟩ = (.ok filter, after)) :
    world.store.TableChanged after.store context.connection layout.file
        (table.append (layout.rowOf schema record).values) ∧
      after.store.Wrote context.connection layout.file := by
  obtain ⟨-, -, surroundings, later, answer, performed, either⟩ := prepareRow_ok done
  rw [creates, given] at performed
  obtain ⟨row, _, required, performed⟩ := Work.perform_bind_ok performed
  cases required
  obtain ⟨written, _, writes, performed⟩ := Work.perform_bind_ok performed
  cases performed
  rcases either with ⟨none, -⟩ | ⟨_, count, same, executed⟩
  · cases none
  · cases same
    have mapped : ∀ entry ∈ (NewRow.ofRecord schema record : NewRow ε).values.entries,
        context.descriptor.columns.contains entry.1 = true := by
      rw [NewRow.entries_ofRecord separates.distinct]
      intro entry listed
      obtain ⟨field, member, rfl⟩ := List.mem_map.1 listed
      exact separates.mapped field member
    have changed := layout.createNew_adds mapped writes sound seen executed
    rw [listed_ofRecord separates.distinct] at changed
    refine ⟨changed, ?_⟩
    have grown : (world.store.execute context.connection written).2.view context.connection
        layout.file ≠ world.store.view context.connection layout.file := by
      rw [executed, changed.view, if_pos rfl, seen]
      exact fun same => table.append_ne _ (Option.some.inj same)
    have wrote := Server.Wrote.of_execute held grown
    rwa [executed] at wrote

end Stream

/-- An edit is on the row that was added to a table, whose payload holds a content. -/
structure Edit.OnAdded (edit : Edit) (file : String) (table : Table) (row : TableRow)
    (content : Bytes) : Prop where
  isTable : edit.table = table.append row.values
  isRow : edit.row = row
  inFile : edit.address.table = file
  numbered : edit.address.row = table.nextRowId
  /-- The payload is in the first of the columns for payloads. -/
  first : table.payloadIndex? = some edit.address.column
  stored : row.values[edit.address.column]? = some (.bytes content)
  /-- The locator of the row can be read, and leads to the table. -/
  located : Locator.read? (Locator.write table.name table.nextRowId) =
    some (table.name, table.nextRowId)
  filed : fileName table.name = file

/-- An edit whose path is the locator of the row that was added to a table is on this row. -/
theorem Edit.onAdded {edit : Edit} {file path : String} {table : Table} {row : TableRow}
    {content : Bytes} (numbered : row.id = table.nextRowId)
    (sees : edit.prepared.table? file = some (table.append row.values))
    (filed : fileName table.name = file) (located : path = Locator.write table.name row.id)
    (led : edit.prepared.payload? path = some (edit.address, content)) :
    edit.OnAdded file table row content := by
  obtain ⟨name, other, _, read, filedUnder, seesOther, column, found, stored⟩ :=
    Transaction.payload?_eq_some led
  rw [located] at read
  obtain ⟨sameName, sameRow⟩ := Locator.read?_write read
  have inFile : edit.address.table = file := by rw [filedUnder, sameName, filed]
  have isTable : edit.table = table.append row.values := by
    have own := edit.seen
    rw [inFile, sees] at own
    exact (Option.some.inj own).symm
  have isRow : edit.row = row := by
    have member : row ∈ edit.table.rows := by
      rw [isTable, Table.append, ← numbered]
      exact List.mem_append_right _ List.mem_cons_self
    have own := edit.found
    rw [sameRow, edit.sound.row?_of_mem member] at own
    exact (Option.some.inj own).symm
  obtain rfl : edit.table = other := by
    have own := edit.seen
    rw [seesOther] at own
    exact (Option.some.inj own).symm
  constructor
  case isTable => exact isTable
  case isRow => exact isRow
  case inFile => exact inFile
  case numbered => exact sameRow.trans numbered
  case first =>
    rw [isTable] at column
    exact column
  case stored =>
    rw [edit.found] at found
    rw [← isRow, Option.some.inj found]
    exact stored
  case located =>
    rw [sameRow, sameName, numbered] at read
    exact read
  case filed => exact filed

namespace Stream

variable {schema : Schema ρ} {options : Options Server ε} {table : Table}

/-- A session that inserts a record which its filter picks out is on the row of the record. -/
theorem openOn_adds {context : Context} {world opened : World Server ε} {stream : Stream Server ε ρ}
    (layout : context.descriptor.Layout table)
    (separates : context.descriptor.Separates schema) (record : ρ)
    (creates : options.mode = .createNew)
    (given : options.newRow = some (NewRow.ofRecord schema record))
    (reached : world.store.Reachable)
    (active : context.state = .active) {transaction : Transaction}
    (held : world.store.connection context.connection = .inTransaction transaction)
    (seen : world.store.view context.connection layout.file = some table)
    (picks : ∀ ready, ((prepareRow options).perform ⟨world, context⟩).2.store.view
      context.connection layout.file = some ready →
        options.filter.PicksOut context.descriptor world.surroundings ready table.nextRowId)
    (opens : (openOn context schema options).perform world = (.ok stream, opened)) :
    ∃ edit : Edit, ∃ content, edit.connection = context.connection ∧
      edit.payload = stream.payload ∧ edit.access = options.access ∧
      edit.OnAdded layout.file table (layout.rowOf schema record) content ∧
      (table.columns[layout.place context.descriptor.payload]?.map TableColumn.isPayload).getD
        false = true ∧
      stream.onClose = options.onClose ∧ stream.context = context ∧
      opened.store.Wrote context.connection layout.file ∧
      edit.Underway (startFile options.mode content) opened.store := by
  have watching : (⟨world, context⟩ : Scope Server ε).Watching context.connection :=
    ⟨rfl, active, transaction, held, reached.sound.transactions _ transaction held⟩
  obtain ⟨edit, content, isOn, hooks, kept, -, underway⟩ := openOn_underway watching opens
  obtain ⟨filter, ⟨ready, own⟩, found, finish, prepared, done, rfl, rfl⟩ := openOn_cases opens
  obtain ⟨same, ⟨later, compiled⟩, -⟩ := prepareRow_ok prepared
  obtain rfl : own = context := same
  have readyReached : ready.store.Reachable := reachable_prepareRow reached prepared
  obtain ⟨changed, wrote⟩ :=
    prepareRow_adds layout separates record creates given reached.sound held seen prepared
  rw [prepared] at isOn picks
  have grownSeen : ready.store.view own.connection layout.file =
      some (table.append (layout.rowOf schema record).values) := by
    rw [changed.view, if_pos rfl]
  obtain ⟨clause, _, compiles, picksOut⟩ := picks _ grownSeen
  obtain rfl : filter = clause := by
    rw [compiled] at compiles
    exact Except.ok.inj (Prod.mk.inj compiles).1
  -- The query for the handle has shown the row of the record.
  obtain ⟨condition, semicolons, spells, asked, target, place, known, -, first, located, placed,
    holdsPayloads⟩ := openRow_asks layout.naming done
  obtain rfl : table.append (layout.rowOf schema record).values = asked :=
    Option.some.inj (grownSeen.symm.trans known)
  have isNew : target.id = table.nextRowId := by
    have selected := List.find?_some first
    rw [picksOut.selects_eq (List.mem_of_find?_eq_some first)] at selected
    exact of_decide_eq_true selected
  have grownSees : edit.prepared.table? layout.file =
      some (table.append (layout.rowOf schema record).values) := by
    rw [Server.view, isOn.held] at grownSeen
    exact grownSeen
  have filed : fileName (table.append (layout.rowOf schema record).values).name = layout.file :=
    readyReached.filed.transactions _ edit.prepared isOn.held _ _ grownSees
  have onAdded : edit.OnAdded layout.file table (layout.rowOf schema record) content :=
    Edit.onAdded rfl grownSees filed (located.trans (congrArg _ isNew)) isOn.led
  have isPayload : (table.columns[layout.place own.descriptor.payload]?.map
      TableColumn.isPayload).getD false = true := by
    have found : (table.append (layout.rowOf schema record).values).columnIndex
        layout.naming.payload = .ok _ :=
      Table.columnIndex_of_columns rfl layout.payload_columnIndex
    rw [placed] at found
    cases found
    exact holdsPayloads
  exact ⟨edit, content, isOn.connection, isOn.payload, isOn.access, onAdded, isPayload, hooks,
    kept, wrote.of_connections (openRow_connections (by simp [creates]) done), underway⟩

end Stream

/-! ## What a session leaves -/

/-- Calls one after another do not unwrite a table. -/
theorem Engine.Server.Wrote.performAll {server : Server} {id : Nat} {file : String}
    (wrote : server.Wrote id file) (payload : Nat) (operations : List FileOperation) :
    (FileOperation.performAll payload operations server).Wrote id file := by
  induction operations generalizing server with
  | nil => exact wrote
  | cons first rest inductionHypothesis =>
    exact inductionHypothesis (wrote.changes (changes_call server payload first))

/-- The table that a session leaves under a name once it is closed: the committed one if its
context owns the connection, and else the one that is seen on the connection. -/
def Context.leaves (context : Context) (server : Server) (file : String) : Option Table :=
  if context.owned then server.catalog.get? file else server.view context.connection file

/-- A stream without a hook that is closed without a failure leaves the table of its payload with
the bytes of the file, if its transaction has written this table. -/
theorem Stream.leaves_close {edit : Edit} {file : PlainFile} {stream : Stream Server ε ρ}
    {world : World Server ε} (underway : edit.Underway file world.store)
    (wrote : world.store.Wrote edit.connection edit.address.table)
    (payload : edit.payload = stream.payload)
    (connection : stream.context.connection = edit.connection)
    (active : stream.context.state = .active) (unhooked : stream.onClose = none)
    (closed : (stream.close.perform world).1 = .ok ()) :
    stream.context.leaves (stream.close.perform world).2.store edit.address.table =
      some (edit.tableWith file.content) := by
  obtain ⟨-, transaction, holds, held⟩ := Edit.closeHandle_holds underway payload
  have table := holds.table
  unfold Context.leaves
  split
  · rename_i owned
    -- What is committed is what the transaction has written, whatever it began with.
    have stillWrote : (stream.closeHandle world).2.store.Wrote edit.connection
        edit.address.table :=
      (wrote.changes (Server.changes_closePayload _ stream.payload)).changes
        (Server.changes_serve _ (.releasePayload stream.payload))
    obtain ⟨own, ownHeld, written⟩ := stillWrote
    rw [held] at ownHeld
    cases ownHeld
    obtain ⟨last, known⟩ := Option.isSome_iff_exists.1 written
    rw [Transaction.table?, known] at table
    rw [catalog_close ⟨owned, connection, active⟩ unhooked (commit_of_close closed) held, known]
    exact table
  · rename_i borrowed
    rw [close_borrowed world unhooked (by simpa using borrowed), connection, Server.view, held]
    exact table

/-- The layout of a descriptor in a table with the same columns. -/
def Descriptor.Layout.ofColumns {descriptor : Descriptor} {table other : Table}
    (layout : descriptor.Layout table) (same : other.columns = table.columns) :
    descriptor.Layout other where
  tableTokens := layout.tableTokens
  tableParts := layout.tableParts
  table_read := layout.table_read
  table_spelled := layout.table_spelled
  place := layout.place
  stored property mapped := by
    obtain ⟨name, known, closed, found⟩ := layout.stored property mapped
    exact ⟨name, known, closed, same ▸ found⟩

/-- A session spares the fields of a schema: none but the payload is in the column that the
payload of a row is found in, or nothing is altered there. -/
def Descriptor.Layout.Spares {descriptor : Descriptor} {table : Table}
    (layout : descriptor.Layout table) (schema : Schema ρ) (operations : List FileOperation) :
    Prop :=
  (∀ field ∈ schema.fields, field.name ≠ descriptor.payload →
      table.payloadIndex? ≠ some (layout.place field.name)) ∨
    ∀ operation ∈ operations, operation.alters = false

namespace Edit.OnAdded

variable {edit : Edit} {file : String} {table : Table} {row : TableRow} {content : Bytes}

/-- The row with what a session leaves in its payload. -/
theorem row_left (onAdded : edit.OnAdded file table row content) (left : Bytes) :
    (edit.tableWith left).row? table.nextRowId =
      some (row.assign [(edit.address.column, .bytes left)]) := by
  rw [tableWith, Table.row?_setCell, ← onAdded.numbered, edit.found, Option.map_some,
    if_pos (Table.id_of_row? edit.found), onAdded.isRow]

/-- Another cell of the row is as it was, and so is that of the payload if nothing was altered. -/
theorem cell_left (onAdded : edit.OnAdded file table row content) {left : Bytes} {place : Nat}
    (spared : place ≠ edit.address.column ∨ left = content) :
    (row.assign [(edit.address.column, .bytes left)]).cell place = row.cell place := by
  have inside : edit.address.column < row.values.length :=
    (List.getElem?_eq_some_iff.1 onAdded.stored).1
  rw [TableRow.cell_assign inside]
  split
  · rename_i same
    rcases spared with other | rfl
    · exact absurd same other
    · rw [same, TableRow.cell, List.getD_eq_getElem?_getD, onAdded.stored]
      rfl
  · rfl

end Edit.OnAdded

namespace Stream

variable {schema : Schema ρ} {table : Table}

/-- A session on the row of a record that is closed without a failure leaves the record. -/
theorem keeps_of_close {descriptor : Descriptor} (layout : descriptor.Layout table)
    (separates : descriptor.Separates schema) (record : ρ)
    (holdsPayloads : (table.columns[layout.place descriptor.payload]?.map
      TableColumn.isPayload).getD false = true) {edit : Edit} {content : Bytes}
    (onAdded : edit.OnAdded layout.file table (layout.rowOf schema record) content)
    {operations : List FileOperation} (spared : layout.Spares schema operations)
    {mode : OpenMode} {server : Server} (underway : edit.Underway (startFile mode content) server)
    {stream : Stream Server ε ρ} {surroundings : ε}
    (wrote : server.Wrote edit.connection layout.file)
    (payload : edit.payload = stream.payload)
    (connection : stream.context.connection = edit.connection)
    (active : stream.context.state = .active) (unhooked : stream.onClose = none)
    (closed : (stream.close.perform ⟨FileOperation.performAll stream.payload operations server,
      surroundings⟩).1 = .ok ()) :
    ∃ (left : Table) (same : left.columns = table.columns) (row : TableRow),
      row.id = table.nextRowId ∧ (layout.ofColumns same).Keeps schema record row ∧
      stream.context.leaves (stream.close.perform
        ⟨FileOperation.performAll stream.payload operations server, surroundings⟩).2.store
        layout.file = some left := by
  let world : World Server ε :=
    ⟨FileOperation.performAll stream.payload operations server, surroundings⟩
  have last : edit.Underway ((startFile mode content).run edit.access operations).2
      world.store := by
    show edit.Underway _ (FileOperation.performAll stream.payload operations server)
    rw [← payload]
    exact underway.performAll operations
  have stillWrote : world.store.Wrote edit.connection edit.address.table := by
    rw [onAdded.inFile]
    exact wrote.performAll stream.payload operations
  have leaves := leaves_close last stillWrote payload connection active unhooked closed
  rw [onAdded.inFile] at leaves
  generalize filled : ((startFile mode content).run edit.access operations).2.content = left
    at leaves
  have unaltered : (∀ operation ∈ operations, operation.alters = false) → left = content := by
    intro keeps
    rw [← filled, PlainFile.content_run keeps, content_startFile]
  have inside : edit.address.column < (layout.rowOf schema record).values.length :=
    (List.getElem?_eq_some_iff.1 onAdded.stored).1
  have columns : (edit.tableWith left).columns = table.columns := by
    rw [Edit.tableWith, onAdded.isTable]
    rfl
  obtain ⟨stored, empty⟩ := separates.holds_rowOf layout record
  refine ⟨edit.tableWith left, columns,
    (layout.rowOf schema record).assign [(edit.address.column, .bytes left)], rfl, ?_, leaves⟩
  constructor
  case member => exact List.mem_of_find?_eq_some (onAdded.row_left left)
  case holds =>
    intro field member other
    refine (onAdded.cell_left ?_).trans (stored field member other)
    refine spared.imp (fun apart same => apart field member other ?_) unaltered
    rw [onAdded.first, ← same]
    rfl
  case holdsPayloads =>
    rw [columns]
    exact holdsPayloads
  case present =>
    have either := TableRow.cell_assign inside (.bytes left) (layout.place descriptor.payload)
    rw [empty] at either
    show (TableRow.cell _ (layout.place descriptor.payload)).isNull = false
    rw [either]
    split <;> rfl
  case payload =>
    refine ⟨edit.address.column, left, ?_, ?_⟩
    · rw [Table.payloadIndex?, columns]
      exact onAdded.first
    · rw [TableRow.cell_assign inside, if_pos rfl]
  case located =>
    have name : (edit.tableWith left).name = table.name := by
      rw [Edit.tableWith, onAdded.isTable]
      rfl
    rw [name]
    exact onAdded.located

end Stream

/-! ## Whole sessions -/

/-- A record is rebuilt from another one, but for its payload: its setters were handed the values
of the other record, each the same but for the width of an integer. What they store it holds, and
what none of them touches is as in the blank record. -/
structure Schema.Rebuilt (schema : Schema ρ) (payload : String) (value : Field ρ → Value)
    (original rebuilt : ρ) : Prop where
  handed : ∀ field ∈ schema.fields, field.name ≠ payload →
    (value field).SameButWidth (field.get original)
  /-- What the setters of the other fields leave alone is as the setter of a field has made it. -/
  stored : ∀ field ∈ schema.fields, field.name ≠ payload → ∃ before after,
    field.set (value field) before = .ok after ∧
      ∀ {α : Type} (seen : ρ → α), (∀ other ∈ schema.fields, other.name ≠ field.name →
        other.name ≠ payload → other.Leaves seen) → seen rebuilt = seen after
  /-- The payload of the record is such a thing, if no other field is kept there. -/
  kept : ∀ {α : Type} (seen : ρ → α), (∀ field ∈ schema.fields, field.name ≠ payload →
    field.Leaves seen) → seen rebuilt = seen schema.blank

/-- **A record comes back.** Take a context in a transaction of a reachable server, which the
context owns or borrows, and a table that the transaction sees, in which every property of the
descriptor has a bracketed column, each field of a schema and the payload one of its own, with a
name. Take a record whose values the fields read and whose setters accept what they read. A session
without a hook inserts the record, by a filter that picks out the new row, does what it likes with
the payload, as long as no other field is kept where the payload is found or nothing is altered,
and is closed without a failure. Then everyone who sees the table that it leaves, and opens the row
by a filter that picks it out, with an access that reads, is given the record as its setters make
it of the values. If the session owned its connection, that is every session which begins on a
connection of its own afterwards, and it can begin. -/
theorem record_comes_back {begun : Server} (reached : begun.Reachable) {context : Context}
    {descriptor : Descriptor} (own : context.descriptor = descriptor)
    (active : context.state = .active) {transaction : Transaction}
    (held : begun.connection context.connection = .inTransaction transaction)
    {table : Table} (layout : descriptor.Layout table)
    (seen : transaction.table? layout.file = some table) {schema : Schema ρ}
    (separates : descriptor.Separates schema) {original expected : ρ}
    {value : Field ρ → Value}
    (reads : ∀ field ∈ schema.fields, field.name ≠ descriptor.payload →
      ∃ column, field.type.read column (field.get original) = .ok (value field))
    (filled : schema.filled descriptor.payload value = .ok expected)
    {creating : Options Server ε} (creates : creating.mode = .createNew)
    (given : creating.newRow = some (.ofRecord schema original))
    (unhooked : creating.onClose = none) {surroundings : ε}
    (picksNew : ∀ ready, ((Stream.prepareRow creating).perform
      ⟨⟨begun, surroundings⟩, context⟩).2.store.view context.connection layout.file = some ready →
        creating.filter.PicksOut descriptor surroundings ready table.nextRowId)
    {stream : Stream Server ε ρ} {opened closed : World Server ε}
    (opens : (Stream.openOn context schema creating).perform ⟨begun, surroundings⟩ =
      (.ok stream, opened)) {operations : List FileOperation}
    (spares : layout.Spares schema operations)
    (closes : stream.close.perform ⟨FileOperation.performAll stream.payload operations opened.store,
      opened.surroundings⟩ = (.ok (), closed))
    {opening : Options Server ε} (existing : opening.mode = .openExisting)
    (canRead : opening.access.canRead = true) {later : ε}
    (picksAgain : ∀ left, context.leaves closed.store layout.file = some left →
      opening.filter.PicksOut descriptor later left table.nextRowId) :
    schema.Rebuilt descriptor.payload value original expected ∧
    ∃ left, context.leaves closed.store layout.file = some left ∧
      (∀ (again : Context) (resumed : Server) (reading : Transaction),
        resumed.Reachable → again.descriptor = descriptor → again.state = .active →
        resumed.connection again.connection = .inTransaction reading →
        reading.table? layout.file = some left →
          ∃ (reader : Stream Server ε ρ) (finish : World Server ε),
            (Stream.openOn again schema opening).perform ⟨resumed, later⟩ = (.ok reader, finish) ∧
            reader.row = some expected) ∧
      (context.owned = true → begun.failNextBegin = false → ∀ settings parsed,
        Settings.parse settings = .ok parsed →
          ∃ (again : Context) (resumed : Server) (reader : Stream Server ε ρ)
            (finish : World Server ε),
            (Context.owned? descriptor settings : Work Error Server Context).perform
              closed.store = (.ok again, resumed) ∧
            (Stream.openOn again schema opening).perform ⟨resumed, later⟩ = (.ok reader, finish) ∧
            reader.row = some expected) := by
  subst own
  refine ⟨⟨fun field member other => ?_, fun field member other => ?_, ?_⟩, ?_⟩
  · obtain ⟨column, read⟩ := reads field member other
    exact FieldType.sameButWidth_of_read read
  · exact Field.seen_of_fillAll filled member other separates.distinct
  · exact Field.seen_fillAll filled
  have view : begun.view context.connection layout.file = some table := by
    rw [Server.view, held]
    exact seen
  obtain ⟨edit, content, connection, payload, -, onAdded, isPayload, hooks, kept, wrote,
    underway⟩ := Stream.openOn_adds layout separates original creates given reached active held view
      picksNew opens
  have closedOk := congrArg Prod.fst closes
  obtain ⟨left, same, row, number, keeps, leaves⟩ := Stream.keeps_of_close layout separates
    original isPayload onAdded spares underway (by rw [connection]; exact wrote) payload
    (by rw [kept, connection]) (by rw [kept]; exact active) (hooks.trans unhooked) closedOk
  rw [closes, kept] at leaves
  have picksOut := picksAgain left leaves
  rw [← number] at picksOut
  refine ⟨left, leaves, ?_, ?_⟩
  · intro again resumed reading resumedReached own inProgress holds sees
    exact keeps.opens separates reads filled existing canRead picksOut resumedReached own inProgress
      holds sees
  · intro owned willing settings parsed readable
    have served : begun.Serves closed.store := by
      have holding : (⟨⟨FileOperation.performAll stream.payload operations opened.store,
          opened.surroundings⟩, stream.context⟩ : Scope Server ε).Holding context.connection := by
        rw [kept]
        exact ⟨owned, rfl, active⟩
      have opening := Stream.openOn_serves (by simp [creates]) opens
      have closing := Stream.close_serves holding (hooks.trans unhooked)
      rw [closes] at closing
      exact (opening.trans (FileOperation.performAll_serves _ operations _)).trans closing
    rw [Context.leaves, if_pos owned] at leaves
    exact keeps.reopens separates reads filled existing canRead picksOut
      (served.reachable reached) (served.willing willing) leaves readable

/-! ## Recordings -/

namespace Sample

/-- A recording as a record. -/
structure Entry where
  id : Value
  title : Value
  sound : Value
deriving DecidableEq

/-- The schema of recordings whose titles have a type. -/
def entries (title : SqlType) : Schema Entry where
  typeName := "Recording"
  blank := ⟨.bigInt 0, .null, .null⟩
  fields := [
    ⟨"id", .required .bigInt, Entry.id, fun value entry => .ok { entry with id := value }⟩,
    ⟨"title", .optional title, Entry.title, fun value entry => .ok { entry with title := value }⟩,
    ⟨"sound", .optional .varBinary, Entry.sound,
      fun value entry => .ok { entry with sound := value }⟩]

/-- The recording with the number 7 as a record. -/
def entry : Entry := ⟨.int 7, .text "Dawn", .null⟩

/-- Insert a record, to write its sound. -/
def insertingOptions (title : SqlType) (entry : Entry) (access : Access) : Options Server Unit :=
  ⟨.createNew, access, seventh, some (.ofRecord (entries title) entry), none⟩

/-- Read the recording with the number 7. -/
def readingOptions : Options Server Unit := ⟨.openExisting, .read, seventh, none, none⟩

/-- What comes of inserting a record and reading it again. -/
structure Comeback where
  /-- The recordings as the session has seen them that has inserted the record. -/
  ready : Option Table
  /-- The recordings that it has left. -/
  left : Option Table
  /-- The record that is read then on another connection, if its row opens. -/
  read : Option (Option Entry)
deriving DecidableEq

/-- The record that a session with its own connection reads which opens an existing row. -/
def read? (server : Server) (descriptor : Descriptor) (schema : Schema Entry) :
    Option (Option Entry) :=
  match (Context.owned? descriptor settings : Work Error Server Context).perform server with
  | (.error _, _) => none
  | (.ok context, begun) =>
    match (Stream.openOn context schema readingOptions).perform ⟨begun, ()⟩ with
    | (.error _, _) => none
    | (.ok stream, _) => some stream.row

/-- What comes of a session on a context, if it opens and is closed without a failure. -/
def comeback? (context : Context) (begun : Server) (schema : Schema Entry)
    (options : Options Server Unit) (operations : List FileOperation) : Option Comeback :=
  match (Stream.openOn context schema options).perform ⟨begun, ()⟩ with
  | (.error _, _) => none
  | (.ok stream, opened) =>
    match stream.close.perform
      ⟨FileOperation.performAll stream.payload operations opened.store, ()⟩ with
    | (.error _, _) => none
    | (.ok _, closed) => some ⟨((Stream.prepareRow options).perform
        ⟨⟨begun, ()⟩, context⟩).2.store.view context.connection "recordings",
      context.leaves closed.store "recordings", read? closed.store context.descriptor schema⟩

/-- What has come of a session has come of one that opened and was closed without a failure. -/
theorem comeback?_eq_some {context : Context} {begun : Server} {schema : Schema Entry}
    {options : Options Server Unit} {operations : List FileOperation} {comeback : Comeback}
    (comes : comeback? context begun schema options operations = some comeback) :
    ∃ stream opened closed,
      (Stream.openOn context schema options).perform ⟨begun, ()⟩ = (.ok stream, opened) ∧
      stream.close.perform
        ⟨FileOperation.performAll stream.payload operations opened.store, ()⟩ = (.ok (), closed) ∧
      ((Stream.prepareRow options).perform ⟨⟨begun, ()⟩, context⟩).2.store.view context.connection
        "recordings" = comeback.ready ∧
      context.leaves closed.store "recordings" = comeback.left := by
  unfold comeback? at comes
  rcases opens : (Stream.openOn context schema options).perform ⟨begun, ()⟩ with ⟨answer, opened⟩
  simp only [opens] at comes
  cases answer with
  | error fault => cases comes
  | ok stream =>
    rcases closes : stream.close.perform
      ⟨FileOperation.performAll stream.payload operations opened.store, ()⟩ with ⟨answer, closed⟩
    simp only [closes] at comes
    cases answer with
    | error fault => cases comes
    | ok _ =>
      cases comes
      exact ⟨stream, opened, closed, rfl, closes, rfl, rfl⟩

/-- What comes of a session with a connection of its own. -/
def ownComeback? (server : Server) (descriptor : Descriptor) (schema : Schema Entry)
    (options : Options Server Unit) (operations : List FileOperation) : Option Comeback :=
  match (Context.owned? descriptor settings : Work Error Server Context).perform server with
  | (.error _, _) => none
  | (.ok context, begun) => comeback? context begun schema options operations

/-- What has come of a session with a connection of its own has come of one that began. -/
theorem ownComeback?_eq_some {server : Server} {descriptor : Descriptor} {schema : Schema Entry}
    {options : Options Server Unit} {operations : List FileOperation} {comeback : Comeback}
    (comes : ownComeback? server descriptor schema options operations = some comeback) :
    ∃ context begun,
      (Context.owned? descriptor settings : Work Error Server Context).perform server =
        (.ok context, begun) ∧
      comeback? context begun schema options operations = some comeback := by
  unfold ownComeback? at comes
  rcases owned : (Context.owned? descriptor settings : Work Error Server Context).perform server
    with ⟨answer, begun⟩
  rw [owned] at comes
  cases answer with
  | error fault => cases comes
  | ok context => exact ⟨context, begun, rfl, comes⟩

/-- How recordings are laid out in a table with the columns of the archive. -/
def layout : descriptor.Layout archived where
  tableTokens := naming.tableTokens
  tableParts := naming.tableParts
  table_read := naming.table_read
  table_spelled := naming.table_spelled
  place := place
  stored := by
    intro property mapped
    obtain ⟨column, known⟩ := Option.isSome_iff_exists.1 mapped
    have listed : (property, column) ∈
        [("id", "[Id]"), ("title", "[Title]"), ("sound", "[Sound]")] :=
      OrderedMap.mem_of_get? known
    have properties : property = "id" ∨ property = "title" ∨ property = "sound" := by
      simp only [List.mem_cons, Prod.mk.injEq, List.not_mem_nil, or_false] at listed
      exact listed.imp And.left (Or.imp And.left And.left)
    rcases properties with rfl | rfl | rfl
    · exact ⟨"Id", by decide, by decide, by decide⟩
    · exact ⟨"Title", by decide, by decide, by decide⟩
    · exact ⟨"Sound", by decide, by decide, by decide⟩

/-- The recordings after the one with the number 7 was inserted, with a sound. -/
def grown (sound : Bytes) : Table :=
  archived.append [.int 7, .text "Dawn", .bytes sound]

/-- The number 7 picks out the recording that was inserted last. -/
theorem seventh_picksOut {table : Table} (among : table ∈ [grown [], grown [255]]) :
    Predicate.PicksOut (seventh : Predicate Unit) descriptor () table archived.nextRowId := by
  refine ⟨⟨"([Id] = @p0)", [⟨0, "@p0", some "[Id]", some .int, .int 7⟩]⟩, (), rfl, ?_⟩
  have both : ∀ table ∈ [grown [], grown [255]], ∀ row ∈ table.rows,
      Clause.meets? ⟨"([Id] = @p0)", [⟨0, "@p0", some "[Id]", some .int, .int 7⟩]⟩ table row =
        some (decide (row.id = archived.nextRowId)) := by
    decide +kernel
  exact both table among

end Sample

/-- The recording with the number 7 comes back with its number as wide as its field, its title and
no sound, though another recording is there and a sound was written. -/
theorem record_comes_back_recording :
    ∃ (context : Context) (begun : Server) (stream : Stream Server Unit Sample.Entry)
      (opened closed : World Server Unit) (again : Context) (resumed : Server)
      (reader : Stream Server Unit Sample.Entry) (finish : World Server Unit),
      begun.Reachable ∧ begun.view context.connection "recordings" = some Sample.archived ∧
      Sample.descriptor.Separates (Sample.entries .nvarChar) ∧
      (Context.owned? Sample.descriptor Sample.settings : Work Error Server Context).perform
        Sample.archive = (.ok context, begun) ∧
      (Stream.openOn context (Sample.entries .nvarChar) (Sample.insertingOptions .nvarChar
        Sample.entry .readWrite)).perform ⟨begun, ()⟩ = (.ok stream, opened) ∧
      stream.close.perform ⟨FileOperation.performAll stream.payload [.write [255]] opened.store,
        ()⟩ = (.ok (), closed) ∧
      (Context.owned? Sample.descriptor Sample.settings : Work Error Server Context).perform
        closed.store = (.ok again, resumed) ∧
      (Stream.openOn again (Sample.entries .nvarChar) Sample.readingOptions).perform
        ⟨resumed, ()⟩ = (.ok reader, finish) ∧
      reader.row = some ⟨.bigInt 7, .text "Dawn", .null⟩ ∧
      (Sample.entries .nvarChar).Rebuilt "sound"
        (fun field => if field.name = "id" then .bigInt 7 else .text "Dawn") Sample.entry
        ⟨.bigInt 7, .text "Dawn", .null⟩ := by
  have comes : Sample.ownComeback? Sample.archive Sample.descriptor (Sample.entries .nvarChar)
      (Sample.insertingOptions .nvarChar Sample.entry .readWrite) [.write [255]] =
        some ⟨some (Sample.grown []), some (Sample.grown [255]),
          some (some ⟨.bigInt 7, .text "Dawn", .null⟩)⟩ := by
    decide +kernel
  obtain ⟨context, begun, owned, comes⟩ := Sample.ownComeback?_eq_some comes
  obtain ⟨stream, opened, closed, opens, closes, ready, left⟩ := Sample.comeback?_eq_some comes
  obtain ⟨active, isOwned, own, started⟩ := by
    have leads := Context.leads_owned? Sample.archive Sample.descriptor Sample.settings _ rfl
    rw [owned] at leads
    exact leads
  obtain ⟨served, willing, parsed, readable⟩ := Context.owned?_serves owned
  obtain ⟨transaction, held, -⟩ := started.transaction
  have file : Sample.layout.file = "recordings" := by decide
  have view : begun.view context.connection "recordings" = some Sample.archived := by
    rw [Context.view_of_owned? owned ⟨rfl, fun _ _ handled _ => handled, rfl⟩]
    decide +kernel
  have seen : transaction.table? Sample.layout.file = some Sample.archived := by
    rw [file, ← view, Server.view, held]
    rfl
  have separates : Sample.descriptor.Separates (Sample.entries .nvarChar) :=
    ⟨by decide, by decide, by decide, by decide⟩
  have reads : ∀ field ∈ (Sample.entries .nvarChar).fields, field.name ≠ "sound" →
      ∃ column, field.type.read column (field.get Sample.entry) =
        .ok (if field.name = "id" then .bigInt 7 else .text "Dawn") := by
    intro field member other
    simp only [Sample.entries, List.mem_cons, List.not_mem_nil, or_false] at member
    rcases member with rfl | rfl | rfl
    · exact ⟨"", by decide⟩
    · exact ⟨"", by decide⟩
    · exact absurd rfl other
  have picksNew : ∀ seen, ((Stream.prepareRow (Sample.insertingOptions .nvarChar Sample.entry
      .readWrite)).perform ⟨⟨begun, ()⟩, context⟩).2.store.view context.connection
        Sample.layout.file = some seen →
      (Sample.insertingOptions .nvarChar Sample.entry .readWrite).filter.PicksOut
        Sample.descriptor () seen Sample.archived.nextRowId := by
    intro seen known
    rw [file, ready] at known
    cases known
    exact Sample.seventh_picksOut (by simp)
  have picksAgain : ∀ seen, context.leaves closed.store Sample.layout.file = some seen →
      Sample.readingOptions.filter.PicksOut Sample.descriptor () seen
        Sample.archived.nextRowId := by
    intro seen known
    rw [file, left] at known
    cases known
    exact Sample.seventh_picksOut (by simp)
  have existing : Sample.readingOptions.mode = .openExisting := rfl
  have canRead : Sample.readingOptions.access.canRead = true := rfl
  obtain ⟨rebuilt, -, -, -, resumes⟩ :=
    record_comes_back (served.reachable Sample.reachable_archive) own active held Sample.layout seen
      separates reads rfl rfl rfl rfl picksNew opens (.inl (by decide)) closes existing canRead
      picksAgain
  obtain ⟨again, resumed, reader, finish, ownedAgain, opensAgain, row⟩ :=
    resumes isOwned willing Sample.settings parsed readable
  exact ⟨context, begun, stream, opened, closed, again, resumed, reader, finish,
    served.reachable Sample.reachable_archive, view, separates, owned, opens, closes, ownedAgain,
    opensAgain, row, rebuilt⟩

namespace Sample

/-- Recordings with their titles in some column. -/
def titledDescriptor (column : String) : Descriptor where
  table := "Recordings"
  columns := ((OrderedMap.empty.insert "id" "[Id]").insert "title" column).insert "sound" "[Sound]"
  identifier := some "id"
  payload := "sound"
  payloadColumn := "[Sound]"
  payload_mapped := rfl
  identifier_mapped := by
    rintro _ ⟨⟩
    exact ⟨rfl, by decide⟩

/-- Recordings with a property that no field has. -/
def notedDescriptor : Descriptor where
  table := "Recordings"
  columns := descriptor.columns.insert "note" "[Note]"
  identifier := some "id"
  payload := "sound"
  payloadColumn := "[Sound]"
  payload_mapped := rfl
  identifier_mapped := by
    rintro _ ⟨⟩
    decide

/-- A server with the table of recordings whose titles are in some column, without rows. -/
def titledServer (title : TableColumn) : Server :=
  (Server.ofSecret [1, 2, 3]).createTable
    { (Table.empty "Recordings").withKey "Id" with
      columns := [⟨"Id", false⟩, title, ⟨"Sound", true⟩] }

/-- A recording with a cover as its title. -/
def coveredEntry : Entry := ⟨.int 7, .bytes [1], .null⟩

/-- Give all recordings another title. -/
def duskHook : Scoped Server Unit Unit := do
  let _ ← Context.execute (.ofText "UPDATE Recordings SET [Title] = 'Dusk'")

/-- Insert a recording, and give all recordings another title when it is closed. -/
def duskOptions : Options Server Unit :=
  { insertingOptions .nvarChar entry .readWrite with onClose := some duskHook }

/-- The record that is to come back: the one that the setters make of what the fields read. -/
def expected? (title : SqlType) (entry : Entry) : Option Entry :=
  ((entries title).filled "sound" fun field =>
    (field.type.read "" (field.get entry)).toOption.getD .null).toOption

/-- What comes back of an only recording: the rows that are left, and what is read. -/
def onlyRow? (comeback : Option Comeback) :
    Option (Option (List TableRow) × Option (Option Entry)) :=
  comeback.map fun comeback => (comeback.left.map Table.rows, comeback.read)

end Sample

/-- A record that was inserted may come back otherwise, or not at all, though its row is the only
one. Where titles are in a column without a name, the title is read from the first column of the
query, which is the locator. Where titles are in a column for payloads that comes before that of
sounds, what is written goes to the title. Where a property that no field has is mapped to a column
that the table lacks, a session that does not read inserts the record, but no session that reads
opens its row. A hook that sets titles has set the title. And
no other connection sees what a session has left in a transaction that it borrows. -/
theorem record_comes_back_otherwise :
    Sample.expected? .nvarChar Sample.entry = some ⟨.bigInt 7, .text "Dawn", .null⟩ ∧
    Sample.onlyRow? (Sample.ownComeback? (Sample.titledServer ⟨"", false⟩)
      (Sample.titledDescriptor "[]") (Sample.entries .nvarChar)
      (Sample.insertingOptions .nvarChar Sample.entry .readWrite) []) =
        some (some [⟨1, [.int 7, .text "Dawn", .bytes []]⟩],
          some (some ⟨.bigInt 7, .text "\\\\memory\\Recordings\\1", .null⟩)) ∧
    Sample.expected? .varBinary Sample.coveredEntry = some ⟨.bigInt 7, .bytes [1], .null⟩ ∧
    Sample.onlyRow? (Sample.ownComeback? (Sample.titledServer ⟨"Cover", true⟩)
      (Sample.titledDescriptor "[Cover]") (Sample.entries .varBinary)
      (Sample.insertingOptions .varBinary Sample.coveredEntry .readWrite) [.write [255]]) =
        some (some [⟨1, [.int 7, .bytes [255], .bytes []]⟩],
          some (some ⟨.bigInt 7, .bytes [255], .null⟩)) ∧
    Sample.onlyRow? (Sample.ownComeback? (Sample.titledServer ⟨"Title", false⟩)
      Sample.notedDescriptor (Sample.entries .nvarChar)
      (Sample.insertingOptions .nvarChar Sample.entry .write) []) =
        some (some [⟨1, [.int 7, .text "Dawn", .bytes []]⟩], none) ∧
    Sample.onlyRow? (Sample.ownComeback? (Sample.titledServer ⟨"Title", false⟩)
      Sample.descriptor (Sample.entries .nvarChar) Sample.duskOptions []) =
        some (some [⟨1, [.int 7, .text "Dusk", .bytes []]⟩],
          some (some ⟨.bigInt 7, .text "Dusk", .null⟩)) ∧
    Sample.onlyRow? (Sample.comeback? (Context.borrowed Sample.descriptor 0)
      (Sample.connected.beginTransaction 0).2 (Sample.entries .nvarChar)
      (Sample.insertingOptions .nvarChar Sample.entry .readWrite) []) =
        some (some [⟨1, [.int 7, .text "Dawn", .bytes []]⟩], none) := by
  refine ⟨?_, ?_, ?_, ?_, ?_, ?_, ?_⟩ <;> decide +kernel

end RowPayload
