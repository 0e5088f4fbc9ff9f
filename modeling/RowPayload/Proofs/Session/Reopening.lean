import RowPayload.Proofs.Lifecycle.Storing
import RowPayload.Proofs.Session.Frame
import RowPayload.Proofs.Session.Requests

/-!
# Opening a row that is there

A row whose table lays out a descriptor is opened by every filter that picks it out, if its
payload can be found: the transaction of an owned context begins, the query for the handle shows
the row and no other, its locator leads to its payload, and the record is what its setters make
of the values in its columns.
-/

namespace RowPayload

open Engine Lifecycle

variable {ε ρ : Type}

/-- A filter picks the row with a number out of a table: it compiles to a clause that does. -/
def Predicate.PicksOut (predicate : Predicate ε) (descriptor : Descriptor) (surroundings : ε)
    (table : Table) (number : Nat) : Prop :=
  ∃ clause after, (predicate.compile descriptor).perform surroundings = (.ok clause, after) ∧
    clause.PicksOut table number

/-- Settings that can be read open a connection, which is ready. -/
theorem Engine.Server.connect_ok {settings : String} {parsed : Settings}
    (readable : Settings.parse settings = .ok parsed) (server : Server) :
    ∃ id connected, server.connect settings = (.ok id, connected) ∧
      connected.connection id = .ready ∧ connected.failNextBegin = server.failNextBegin := by
  refine ⟨server.connections.next, { server with
      connections := (server.connections.add .ready).2 }.count fun counters =>
        { counters with connectionsOpened := counters.connectionsOpened + 1 }, ?_, ?_, rfl⟩
  · rw [connect, readable]
    rfl
  · have added := connection_add server server.connections.next
    rwa [if_pos rfl] at added

/-- A transaction begins on a connection that is ready, if no start is to fail. -/
theorem Engine.Server.beginTransaction_ok {server : Server} {id : Nat}
    (ready : server.connection id = .ready) (willing : server.failNextBegin = false) :
    ∃ after, server.beginTransaction id = (.ok (), after) := by
  rw [beginTransaction, ready]
  exact ⟨_, if_neg (by simp [willing])⟩

namespace Context

/-- An owned context comes if the settings can be read and no start is to fail. -/
theorem owned?_begins {server : Server} {settings : String} {parsed : Settings}
    (readable : Settings.parse settings = .ok parsed) (willing : server.failNextBegin = false)
    (descriptor : Descriptor) :
    ∃ context begun, (owned? descriptor settings : Work Error Server Context).perform server =
      (.ok context, begun) := by
  obtain ⟨id, connected, connects, ready, same⟩ := server.connect_ok readable
  obtain ⟨begun, begins⟩ := Server.beginTransaction_ok ready (same.trans willing)
  have connection : (Backend.connect settings : Work Error Server Nat).perform server =
      (.ok id, connected) := connects
  have started : (Backend.beginTransaction id : Work Error Server Unit).perform connected =
      (.ok (), begun) :=
    congrArg (fun done => (done.1.mapError Error.ofEngine, done.2)) begins
  refine ⟨⟨descriptor, id, true, .active⟩, begun, ?_⟩
  rw [owned?, Work.perform_bind, connection]
  simp only [Work.perform_bind, Work.perform_attempt, started, Work.perform_pure]

/-- An operation that the server answers is answered through a context whose transaction is in
progress. -/
theorem perform_operation {α : Type} {operation : Nat → Server → Except Failure α × Server}
    {scope : Scope Server ε} {answer : α} {after : Server} (active : scope.context.state = .active)
    (done : operation scope.context.connection scope.store = (.ok answer, after)) :
    (onConnection fun id => Server.work (operation id) : Scoped Server ε α).perform scope =
      (.ok answer, { scope with store := after }) := by
  rw [perform_onConnection _ active, Server.work, Work.perform_ofFunction, done]
  rfl

end Context

namespace Stream

variable {schema : Schema ρ} {options : Options Server ε} {scope : Scope Server ε}
  {filter : Clause}

/-- A row that is there is prepared by compiling the filter. -/
theorem prepareRow_existing (existing : options.mode = .openExisting) {later : ε}
    (compiled : (options.filter.compile scope.context.descriptor).perform scope.surroundings =
      (.ok filter, later)) :
    (prepareRow options).perform scope = (.ok filter, { scope with surroundings := later }) := by
  have valid : options.validate = .ok () := by
    simp [Options.validate, existing, OpenMode.createsRow]
  have idle : (Lifecycle.command scope.context.descriptor options.mode filter
      options.newRow).perform later = (.ok none, later) := by
    rw [existing]
    rfl
  simp only [prepareRow, Work.perform_bind, valid, Work.perform_lift, Work.perform_get,
    Scope.onSurroundings, Work.perform_onPart, compiled, idle, Work.perform_pure]

/-- A payload opens whose row the query for the handle shows first. -/
theorem openRow_first (active : scope.context.state = .active) (other : options.mode ≠ .append)
    {result : ResultSet} {row : ResultRow} {asked ready : Server} {path : String} {token : Bytes}
    {record : Option ρ} {payload : Nat}
    (queried : scope.store.query scope.context.connection (handleQuery scope.context.descriptor
      filter options.access.canRead) = (.ok result, asked))
    (first : result.first? = some row) (located : locator row = .ok path)
    (offered : Stream.token row = .ok token)
    (rebuilt : recordOf schema scope.context.descriptor options.access row = .ok record)
    (opens : asked.openPayload scope.context.connection path token options.access =
      (.ok payload, ready)) :
    (openRow schema options filter).perform scope =
      (.ok ⟨payload, record, path⟩, { scope with store := ready }) := by
  have answers : (Context.query (handleQuery scope.context.descriptor filter
      options.access.canRead) : Scoped Server ε ResultSet).perform scope =
        (.ok result, { scope with store := asked }) :=
    Context.perform_operation active queried
  have handles : (Context.onConnection (fun id => Backend.openPayload id path token
      options.access) : Scoped Server ε Nat).perform { scope with store := asked } =
        (.ok payload, { scope with store := ready }) :=
    Context.perform_operation active opens
  simp only [openRow, Work.perform_bind, Work.perform_get, answers, first, located, offered,
    rebuilt, Work.perform_lift, handles, if_neg other, Work.perform_pure]

/-- A stream opens whose row is prepared and whose payload opens. -/
theorem openOn_of_steps {context : Context} {world : World Server ε} {ready after : Scope Server ε}
    {opened : Opened ρ} (prepared : (prepareRow options).perform ⟨world, context⟩ =
      (.ok filter, ready))
    (opens : (openRow schema options filter).perform ready = (.ok opened, after)) :
    (openOn context schema options).perform world =
      (.ok ⟨after.context, opened.payload, opened.row, options.mode, options.access, opened.path,
        options.onClose⟩, after.toWorld) := by
  rw [openOn, Work.perform_ofFunction, prepare, Work.perform_bind, prepared]
  dsimp only
  rw [opens]

/-- **A row that a filter picks out is opened** with what its columns show, if its payload is
found. -/
theorem openOn_existing {context : Context} {server : Server} {surroundings : ε} {table : Table}
    (layout : context.descriptor.Layout table) {transaction : Transaction}
    (active : context.state = .active)
    (held : server.connection context.connection = .inTransaction transaction)
    (seen : transaction.table? layout.file = some table) (sound : table.Sound)
    (holdsPayloads : (table.columns[layout.place context.descriptor.payload]?.map
      TableColumn.isPayload).getD false = true) {row : TableRow} (member : row ∈ table.rows)
    (present : (row.cell (layout.place context.descriptor.payload)).isNull = false)
    {address : CellAddress} {content : Bytes}
    (led : transaction.payload? (Locator.write table.name row.id) = some (address, content))
    (existing : options.mode = .openExisting) (reads : options.access.canRead = true)
    (picksOut : options.filter.PicksOut context.descriptor surroundings table row.id)
    {record : ρ}
    (rebuilt : Materialize.record schema context.descriptor [context.descriptor.payload]
      ⟨layout.names, layout.values transaction.token row⟩ = .ok record) :
    ∃ stream opened,
      (openOn context schema options).perform ⟨server, surroundings⟩ = (.ok stream, opened) ∧
      stream.row = some record := by
  obtain ⟨clause, later, compiled, picks⟩ := picksOut
  obtain ⟨condition, semicolons, spells, passed⟩ := picks.passes member
  let command := handleQuery context.descriptor clause options.access.canRead
  let scene := server.scene (server.connection context.connection) command.parameters
  have alive : server.connection context.connection ≠ .closed := by
    rw [held]
    exact nofun
  have given : scene.token = some transaction.token := by
    simp only [scene, held]
    rfl
  have found : scene.table layout.naming.table = .ok table := by
    refine Server.table_of_view ?_ _
    rw [Server.view, held]
    exact seen
  -- The query binds the values of the clause, so its condition goes for the same rows.
  have tells : scene.Tells table condition fun other => decide (other.id = row.id) := by
    intro other inside
    have binds : boundValues scene.parameters = boundValues clause.parameters := by
      rw [Server.parameters_scene, boundValues_handleQuery]
    exact passes_mono (binds ▸ List.prefix_rfl) (passed other inside)
  obtain ⟨result, selected, first⟩ :=
    layout.select_pickedOut given found sound holdsPayloads member present tells
  have parsed : Sql.parse command.sql =
      .ok (.select ⟨layout.items, layout.naming.table, some condition⟩) := by
    simp only [command, reads]
    exact layout.handleQuery_parse spells
  obtain ⟨change, queried⟩ := Server.query_ok alive parsed selected
  have stillHeld : (server.count change).connection context.connection =
      .inTransaction transaction := held
  have opens : (openRow schema options clause).perform ⟨⟨server, later⟩, context⟩ = _ :=
    openRow_first active (by simp [existing]) queried first rfl rfl
      (by rw [recordOf, if_pos reads, rebuilt]; rfl)
      (Server.openPayload_of_payload? stillHeld led options.access)
  have prepared : (prepareRow options).perform ⟨⟨server, surroundings⟩, context⟩ =
      (.ok clause, ⟨⟨server, later⟩, context⟩) :=
    prepareRow_existing existing compiled
  have whole := openOn_of_steps prepared opens
  exact ⟨_, _, whole, rfl⟩

end Stream

/-! ## Kept records -/

/-- A row of a table that lays out a descriptor keeps a record, and its payload is found. -/
structure Descriptor.Layout.Keeps {descriptor : Descriptor} {table : Table}
    (layout : descriptor.Layout table) (schema : Schema ρ) (record : ρ) (row : TableRow) :
    Prop where
  member : row ∈ table.rows
  holds : layout.Holds schema record row
  /-- The payload column is one for payloads, and the payload is there. -/
  holdsPayloads : (table.columns[layout.place descriptor.payload]?.map TableColumn.isPayload).getD
    false = true
  present : (row.cell (layout.place descriptor.payload)).isNull = false
  /-- So is the one that the locator of the row leads to, which can be read. -/
  payload : ∃ column content, table.payloadIndex? = some column ∧ row.cell column = .bytes content
  located : Locator.read? (Locator.write table.name row.id) = some (table.name, row.id)

namespace Descriptor.Layout.Keeps

variable {descriptor : Descriptor} {table : Table} {layout : descriptor.Layout table}
  {schema : Schema ρ} {original : ρ} {row : TableRow}

/-- A transaction that sees the table finds the payload of the row. -/
theorem led (keeps : layout.Keeps schema original row) (sound : table.Sound)
    (filed : fileName table.name = layout.file) {transaction : Transaction}
    (seen : transaction.table? layout.file = some table) :
    ∃ address content,
      transaction.payload? (Locator.write table.name row.id) = some (address, content) := by
  obtain ⟨column, content, first, stored⟩ := keeps.payload
  have bytes : (row.cell column).bytes? = some content := by
    rw [stored]
    rfl
  refine ⟨⟨layout.file, row.id, column⟩, content, ?_⟩
  simp only [Transaction.payload?, keeps.located, Option.bind_eq_bind, Option.bind_some, filed,
    seen, first, sound.row?_of_mem keeps.member, bytes]
  rfl

section

variable (keeps : layout.Keeps schema original row) (separates : descriptor.Separates schema)
  {value : Field ρ → Value} {record : ρ}
  (reads : ∀ field ∈ schema.fields, field.name ≠ descriptor.payload →
    ∃ column, field.type.read column (field.get original) = .ok (value field))
  (filled : schema.filled descriptor.payload value = .ok record) {options : Options Server ε}
  (existing : options.mode = .openExisting) (canRead : options.access.canRead = true)
  {surroundings : ε} (picksOut : options.filter.PicksOut descriptor surroundings table row.id)
include keeps separates reads filled existing canRead picksOut

/-- **A record that is kept comes back**, as its setters make it of the values that its fields
read, to everyone who sees the table and opens the row by a filter that picks it out and with an
access that reads. -/
theorem opens {server : Server} (reached : server.Reachable) {context : Context}
    (own : context.descriptor = descriptor) (active : context.state = .active)
    {transaction : Transaction}
    (held : server.connection context.connection = .inTransaction transaction)
    (seen : transaction.table? layout.file = some table) :
    ∃ (stream : Stream Server ε ρ) (opened : World Server ε),
      (Stream.openOn context schema options).perform ⟨server, surroundings⟩ =
        (.ok stream, opened) ∧
      stream.row = some record := by
  subst own
  have sound := reached.sound.transactions _ transaction held _ _ seen
  have filed := reached.filed.transactions _ transaction held _ _ seen
  obtain ⟨address, content, led⟩ := keeps.led sound filed seen
  exact Stream.openOn_existing layout active held seen sound keeps.holdsPayloads keeps.member
    keeps.present led existing canRead picksOut
    (separates.record_shown layout keeps.holds reads filled transaction.token)

/-- A record that is committed comes back in a session with a connection of its own, which opens
if its settings can be read and no start of a transaction is to fail. -/
theorem reopens {server : Server} (reached : server.Reachable)
    (willing : server.failNextBegin = false)
    (committed : server.catalog.get? layout.file = some table) {settings : String}
    {parsed : Settings} (readable : Settings.parse settings = .ok parsed) :
    ∃ (context : Context) (begun : Server) (stream : Stream Server ε ρ)
      (opened : World Server ε),
      (Context.owned? descriptor settings : Work Error Server Context).perform server =
        (.ok context, begun) ∧
      (Stream.openOn context schema options).perform ⟨begun, surroundings⟩ = (.ok stream, opened) ∧
      stream.row = some record := by
  obtain ⟨context, begun, owned⟩ := Context.owned?_begins readable willing descriptor
  obtain ⟨active, -, own, started⟩ := by
    have leads := Context.leads_owned? server descriptor settings server rfl
    rw [owned] at leads
    exact leads
  obtain ⟨transaction, held, -⟩ := started.transaction
  have seen : transaction.table? layout.file = some table := by
    have view := Context.view_of_owned? owned ⟨rfl, fun _ _ handled _ => handled, rfl⟩
    rw [Server.view, held] at view
    exact (congrFun view layout.file).trans committed
  obtain ⟨stream, opened, opens, shown⟩ := keeps.opens separates reads filled existing canRead
    picksOut ((Context.owned?_serves owned).1.reachable reached) own active held seen
  exact ⟨context, begun, stream, opened, owned, opens, shown⟩

end

end Descriptor.Layout.Keeps

end RowPayload
