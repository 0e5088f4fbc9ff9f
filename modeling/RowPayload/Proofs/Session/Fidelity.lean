import RowPayload.Proofs.Sample
import RowPayload.Proofs.Session.AllOrNothing

/-!
# Payload fidelity

A session on a payload is a plain file. Every call answers as the file does that starts
from the payload as the preparation of the row left it. A session that is closed without
a failure has committed the bytes of the file and has changed no other cell, and whoever
opens the payload afterwards reads exactly these bytes.
-/

namespace RowPayload

open Engine

variable {ε ρ : Type} {id : Nat}

/-! ## Reading back -/

/-- A path locator leads to the row of a cell. -/
def Engine.Locator.LeadsTo (path : String) (address : CellAddress) : Prop :=
  ∃ name, Locator.read? path = some (name, address.row) ∧ fileName name = address.table

/-- Whoever opens the payload of a cell, by any path that leads to its row and with an
access that reads, reads the bytes of a content. -/
def Engine.Server.ReadsBack (server : Server) (id : Nat) (token : Bytes) (address : CellAddress)
    (content : Bytes) : Prop :=
  ∀ path access, Locator.LeadsTo path address → access.canRead = true →
    ∃ payload, (server.openPayload id path token access).1 = .ok payload ∧
      ∀ count, (((FileOperation.read count).perform payload).perform
        (server.openPayload id path token access).2).1 = .ok (.bytes (content.take count))

/-- What a session has committed: a content in the cell that its payload was opened on,
and every other cell as it was prepared. -/
structure PayloadCommitted (prepared : Transaction) (table : Table) (address : CellAddress)
    (content : Bytes) (server : Server) : Prop where
  /-- The table is as prepared but for the cell. -/
  cell : ∃ committed, server.catalog.get? address.table = some committed ∧
    table.CellChanged committed address.row address.column (.bytes content) ∧
    ∃ row, committed.row? address.row = some row ∧ row.cell address.column = .bytes content
  /-- Every other table is as prepared. -/
  others : ∀ name, name ≠ address.table → server.catalog.get? name = prepared.table? name
  /-- A transaction that sees the committed table reads the content back. -/
  readBack : ∀ (later : Server) (reader : Nat) (transaction : Transaction),
    later.connection reader = .inTransaction transaction →
    transaction.table? address.table = server.catalog.get? address.table →
    later.ReadsBack reader transaction.token address content

namespace Edit

variable {edit : Edit}

/-- The row of the payload once the payload was replaced. -/
theorem row_tableWith (edit : Edit) (content : Bytes) :
    ∃ row, (edit.tableWith content).row? edit.address.row = some row ∧
      row.values[edit.address.column]? = some (.bytes content) := by
  refine ⟨edit.row.assign [(edit.address.column, .bytes content)], ?_, ?_⟩
  · rw [tableWith, Table.row?_setCell, edit.found, Option.map_some,
      if_pos (Table.id_of_row? edit.found)]
  · simp [TableRow.assign, edit.inside]

/-- A transaction that sees the payload replaced reads it back. -/
theorem readsBack {content : Bytes} {server : Server} {transaction : Transaction}
    (first : edit.table.payloadIndex? = some edit.address.column)
    (held : server.connection id = .inTransaction transaction)
    (seen : transaction.table? edit.address.table = some (edit.tableWith content)) :
    server.ReadsBack id transaction.token edit.address content := by
  rintro path access ⟨name, located, filed⟩ readable
  obtain ⟨row, found, stored⟩ := edit.row_tableWith content
  have column : (edit.tableWith content).payloadIndex? = some edit.address.column := first
  have bytes : (row.cell edit.address.column).bytes? = some content := by
    rw [TableRow.cell, List.getD_eq_getElem?_getD, stored]
    rfl
  have led : transaction.payload? path = some (edit.address, content) := by
    simp only [Transaction.payload?, located, Option.bind_eq_bind, Option.bind_some, filed, seen,
      column, found, bytes]
    rfl
  let reading : Handle :=
    ⟨id, transaction.number, edit.address, .ofContent content, access, false, true⟩
  have opens := Server.openPayload_of_payload? held led access
  refine ⟨server.handles.next, by rw [opens], fun count => ?_⟩
  have handled : (server.openPayload id path transaction.token access).2.handles.get?
      server.handles.next = some reading := by
    rw [opens]
    show (server.handles.add reading).2.get? server.handles.next = _
    rw [Slots.get?_add, if_pos rfl]
  have reads : reading.read count =
      .ok (content.take count, { reading with file := (reading.file.read count).2 }) := by
    simp [reading, Handle.read, Handle.requireReadable, readable, ByteFile.read,
      ByteFile.ofContent, bind, Except.bind, pure, Except.pure]
  rw [FileOperation.perform, Work.perform_map]
  show Except.map FileAnswer.bytes (Server.onHandle _ _ fun handle => handle.read count).1 = _
  rw [Server.onHandle, handled]
  simp only [reads]
  rfl

/-- Once the handle of a stream is closed, the transaction holds the file. -/
theorem closeHandle_holds {stream : Stream Server ε ρ} {world : World Server ε} {file : PlainFile}
    (underway : edit.Underway file world.store) (payload : edit.payload = stream.payload) :
    (stream.closeHandle world).2.store.catalog = world.store.catalog ∧
      ∃ transaction, edit.Holds transaction file.content ∧
        (stream.closeHandle world).2.store.connection edit.connection =
          .inTransaction transaction := by
  obtain ⟨-, catalog, handled, transaction, held, holds⟩ := underway.close
  rw [payload] at catalog handled held
  have store : (stream.closeHandle world).2.store =
      { (world.store.closePayload stream.payload).2 with
        handles := (world.store.closePayload stream.payload).2.handles.free stream.payload } :=
    releasePayload_closed handled rfl
  rw [store]
  exact ⟨catalog, transaction, holds, held⟩

/-- Closing a stream without a hook, if it reports no failure, publishes what the
transaction holds once the handle was closed. -/
theorem catalog_closed {stream : Stream Server ε ρ} {world : World Server ε} {file : PlainFile}
    (opened : edit.Open file world.store) (payload : edit.payload = stream.payload)
    (holding : (⟨world, stream.context⟩ : Scope Server ε).Holding edit.connection)
    (unhooked : stream.onClose = none) (closed : (stream.close.perform world).1 = .ok ()) :
    ∃ transaction, edit.Holds transaction file.content ∧
      ∀ name, (stream.close.perform world).2.store.catalog.get? name =
        transaction.table? name := by
  obtain ⟨catalog, transaction, holds, held⟩ := closeHandle_holds opened.underway payload
  refine ⟨transaction, holds, fun name => ?_⟩
  have origin : transaction.origin = edit.prepared.origin :=
    congrArg (fun identity => identity.2.2) holds.identity
  rw [Stream.catalog_close holding unhooked (Stream.commit_of_close closed) held, catalog,
    opened.catalog, ← origin, Transaction.table?]

/-- **A session that is closed without a failure has committed its file** and nothing
else. -/
theorem committed_of_close {stream : Stream Server ε ρ} {world : World Server ε}
    {file : PlainFile} (opened : edit.Open file world.store)
    (first : edit.table.payloadIndex? = some edit.address.column)
    (payload : edit.payload = stream.payload)
    (holding : (⟨world, stream.context⟩ : Scope Server ε).Holding edit.connection)
    (unhooked : stream.onClose = none) (closed : (stream.close.perform world).1 = .ok ()) :
    PayloadCommitted edit.prepared edit.table edit.address file.content
      (stream.close.perform world).2.store := by
  obtain ⟨transaction, holds, published⟩ := catalog_closed opened payload holding unhooked closed
  constructor
  case cell =>
    obtain ⟨row, found, stored⟩ := edit.row_tableWith file.content
    refine ⟨edit.tableWith file.content, ?_, ?_, row, found, ?_⟩
    · rw [published, holds.table]
    · exact edit.sound.cellChanged_setCell edit.found edit.inside _
    · rw [TableRow.cell, List.getD_eq_getElem?_getD, stored]
      rfl
  case others =>
    intro name other
    rw [published, holds.others name other]
  case readBack =>
    intro later reader own held same
    rw [published, holds.table] at same
    exact edit.readsBack first held same

end Edit

/-! ## Whole sessions -/

/-- An owned context that was opened on a sound server sees sound tables, also after
others have acted aside. -/
theorem Context.seeing_of_owned? {base begun store : Server} {descriptor : Descriptor}
    {settings : String} {context : Context} (sound : base.Sound)
    (owned : (owned? descriptor settings : Work Error Server Context).perform base =
      (.ok context, begun))
    (aside : begun.Aside context.connection store) (surroundings : ε) :
    (⟨⟨store, surroundings⟩, context⟩ : Scope Server ε).Seeing context.connection := by
  have leads := leads_owned? base descriptor settings base rfl
  rw [owned] at leads
  obtain ⟨active, isOwned, -, started⟩ := leads
  obtain ⟨transaction, held, origin⟩ := started.transaction
  have begunSound : begun.Sound := by
    have kept := keepsSound_owned? descriptor settings base sound
    rw [owned] at kept
    exact kept
  refine ⟨⟨isOwned, rfl, active⟩, transaction, ?_, ?_, ?_⟩
  · exact aside.connection.trans held
  · exact origin.trans (started.catalog.symm.trans aside.catalog.symm)
  · exact begunSound.transactions _ _ held

/-- **Payload fidelity.** A session that owns its connection, opens on a reachable server
and has no hook, with any calls on its payload and others acting aside: the payload that
its path leads to, as the preparation of the row left it, is the plain file that it
starts from; every call answers as that file does; and if closing reports no failure,
exactly the file's bytes are committed. -/
theorem payload_fidelity {base begun store after : Server} {descriptor : Descriptor}
    {settings : String} {context : Context} {surroundings : ε} {schema : Schema ρ}
    {options : Options Server ε} {stream : Stream Server ε ρ} {opened : World Server ε}
    {history : List (FileOperation × Except IoFault FileAnswer)}
    (reachable : base.Reachable)
    (owned : (Context.owned? descriptor settings : Work Error Server Context).perform base =
      (.ok context, begun))
    (aside : begun.Aside context.connection store)
    (opens : (Stream.openOn context schema options).perform ⟨store, surroundings⟩ =
      (.ok stream, opened))
    (unhooked : options.onClose = none)
    (run : PayloadRun context.connection stream.payload opened.store history after) :
    ∃ prepared address content table,
      ((Stream.prepareRow options).perform ⟨⟨store, surroundings⟩, context⟩).2.store.connection
        context.connection = .inTransaction prepared ∧
      prepared.payload? stream.path = some (address, content) ∧
      Locator.LeadsTo stream.path address ∧
      prepared.table? address.table = some table ∧
      table.payloadIndex? = some address.column ∧
      let started := Stream.startFile options.mode content
      let finished := (started.run options.access (history.map Prod.fst)).2
      history = (started.run options.access (history.map Prod.fst)).1 ∧
      ∀ surroundings : ε,
        (stream.close.perform ⟨after, surroundings⟩).1 = .ok () →
        PayloadCommitted prepared table address finished.content
          (stream.close.perform ⟨after, surroundings⟩).2.store := by
  have seeing := Context.seeing_of_owned? reachable.sound owned aside surroundings
  obtain ⟨edit, content, ⟨connection, payload, access, held, led⟩, hooks, holding, isOpen⟩ :=
    Stream.openOn_ok seeing opens
  obtain ⟨name, table, row, located, filed, seen, first, -, -⟩ :=
    Transaction.payload?_eq_some led
  obtain rfl : table = edit.table := by
    rw [edit.seen] at seen
    exact (Option.some.inj seen).symm
  rw [← connection, ← payload] at run
  obtain ⟨answers, last⟩ := isOpen.run run
  rw [access] at answers last
  refine ⟨edit.prepared, edit.address, content, edit.table, held, led, ⟨name, located, filed.symm⟩,
    edit.seen, first, answers, fun surroundings closed => ?_⟩
  have stillHolding : (⟨⟨after, surroundings⟩, stream.context⟩ :
      Scope Server ε).Holding edit.connection := by
    rw [connection]
    exact ⟨holding.owned, holding.connection, holding.active⟩
  exact Edit.committed_of_close last first payload stillHolding (hooks.trans unhooked) closed

namespace Sample

/-- Insert a recording, to write its sound. -/
def writingOptions : Options Server Unit := ⟨.createNew, .readWrite, seventh, some recording, none⟩

/-- Some bytes, a gap, and a byte more. -/
def calls (payload : Nat) (server : Server) : Server :=
  [FileOperation.write [1, 2], .seek (.fromEnd 2), .write [3]].foldl
    (fun server operation => ((operation.perform payload).perform server).2) server

/-- Whether the calls on a new recording are committed. -/
def isCommitted : Bool :=
  match (Context.owned? descriptor settings : Work Error Server Context).perform server with
  | (.error _, _) => false
  | (.ok context, begun) =>
    match (Stream.openOn context schema writingOptions).perform ⟨begun, ()⟩ with
    | (.error _, _) => false
    | (.ok stream, opened) =>
      match stream.close.perform ⟨calls stream.payload opened.store, ()⟩ with
      | (.error _, _) => false
      | (.ok _, closed) => closed.store.payload? "recordings" (.int 7) = some [1, 2, 0, 0, 3]

end Sample

/-- A session that inserts a recording and writes its sound with a gap commits it. -/
theorem payload_fidelity_recording :
    ∃ (context : Context) (begun : Server) (stream : Stream Server Unit Unit)
      (opened closed : World Server Unit)
      (history : List (FileOperation × Except IoFault FileAnswer))
      (prepared : Transaction) (address : CellAddress) (content : Bytes) (table : Table),
      Sample.server.Reachable ∧
      (Context.owned? Sample.descriptor Sample.settings :
        Work Error Server Context).perform Sample.server = (.ok context, begun) ∧
      (Stream.openOn context Sample.schema Sample.writingOptions).perform ⟨begun, ()⟩ =
        (.ok stream, opened) ∧
      PayloadRun context.connection stream.payload opened.store history
        (Sample.calls stream.payload opened.store) ∧
      stream.close.perform ⟨Sample.calls stream.payload opened.store, ()⟩ = (.ok (), closed) ∧
      prepared.payload? stream.path = some (address, content) ∧
      PayloadCommitted prepared table address
        (((Stream.startFile .createNew content).run .readWrite (history.map Prod.fst)).2).content
        closed.store ∧
      closed.store.payload? "recordings" (.int 7) = some [1, 2, 0, 0, 3] := by
  have committed : Sample.isCommitted = true := by decide +kernel
  unfold Sample.isCommitted at committed
  rcases owned : (Context.owned? Sample.descriptor Sample.settings :
    Work Error Server Context).perform Sample.server with ⟨answer, begun⟩
  rw [owned] at committed
  cases answer with
  | error fault => cases committed
  | ok context =>
    rcases opens : (Stream.openOn context Sample.schema Sample.writingOptions).perform ⟨begun, ()⟩
      with ⟨answer, opened⟩
    simp only [opens] at committed
    cases answer with
    | error fault => cases committed
    | ok stream =>
      rcases closes : stream.close.perform ⟨Sample.calls stream.payload opened.store, ()⟩
        with ⟨answer, closed⟩
      simp only [closes] at committed
      cases answer with
      | error fault => cases committed
      | ok done =>
        have run : ∃ history, PayloadRun context.connection stream.payload opened.store history
            (Sample.calls stream.payload opened.store) :=
          ⟨_, .call (.write [1, 2]) (.call (.seek (.fromEnd 2)) (.call (.write [3]) (.rest _)))⟩
        obtain ⟨history, run⟩ := run
        obtain ⟨prepared, address, content, table, -, led, -, -, -, -, ends⟩ :=
          payload_fidelity Sample.reachable_server owned
            ⟨rfl, fun _ _ handled _ => handled, rfl⟩ opens rfl run
        have publishes := ends ()
        rw [closes] at publishes
        exact ⟨context, begun, stream, opened, closed, history, prepared, address, content, table,
          Sample.reachable_server, rfl, opens, run, closes, led, publishes rfl,
          of_decide_eq_true committed⟩

end RowPayload
