import Mathlib.Logic.Relation
import RowPayload.Proofs.Engine.Reachable

/-!
# What a request changes

However a request is answered, what it does to a server is made up of changes of a few
kinds, each with what had to be the case for it. A property that every kind of change
keeps is kept by every request, so the proof of an invariant goes through the kinds of
changes once and never through the requests.
-/

namespace RowPayload.Engine

/-- What a request works on. -/
inductive Subject where
  | server
  | connection (id : Nat)
  | payload (number : Nat)
deriving DecidableEq

/-- What a request works on. -/
def Request.subject : Request → Subject
  | .createTable .. | .resetCounters | .refuseNextBegin | .refuseNextCommit | .connect _ => .server
  | .beginTransaction id | .commit id | .rollback id | .close id | .release id => .connection id
  | .execute id _ | .query id _ | .openPayload id .. => .connection id
  | .call payload _ | .closePayload payload | .releasePayload payload => .payload payload

/-- The kinds of changes that requests on a subject are made up of. -/
inductive Change : Subject → Server → Server → Prop where
  /-- Something was counted, or a failure was asked for or has happened. -/
  | recount {subject : Subject} {before after : Server} (catalog : after.catalog = before.catalog)
      (connections : after.connections = before.connections)
      (handles : after.handles = before.handles)
      (transactions : after.transactions = before.transactions) : Change subject before after
  | createTable {server : Server} (table : Table) (blank : table.rows = []) :
      Change .server server (server.createTable table)
  | connect {server : Server} :
      Change .server server { server with connections := (server.connections.add .ready).2 }
  | begin {server : Server} {id : Nat} (ready : server.connection id = .ready) :
      Change (.connection id) server { server.setConnection id (.inTransaction
        (.start server.secret server.transactions server.catalog)) with
          transactions := server.transactions + 1 }
  /-- A transaction is over, or the connection is. -/
  | leave {server : Server} {id : Nat} (alive : server.connection id ≠ .closed)
      {state : Connection} (idle : ∀ transaction, state ≠ .inTransaction transaction) :
      Change (.connection id) server (server.setConnection id state)
  | commit {server : Server} {id : Nat} {transaction : Transaction}
      (held : server.connection id = .inTransaction transaction) :
      Change (.connection id) server ((server.setConnection id .ready).publish transaction.changed)
  | release {server : Server} (id : Nat) : Change (.connection id) server (server.release id)
  /-- A statement has written a table. -/
  | statement {server : Server} {id : Nat} (alive : server.connection id ≠ .closed)
      {parameters : List Parameter} {statement : Sql.Statement} {effect : Effect}
      (ran : (server.scene (server.connection id) parameters).run statement = .ok effect)
      {file : String} {table : Table} (written : effect.written = some (file, table)) :
      Change (.connection id) server
        (server.absorb id (server.connection id) (some (file, table)))
  | openPayload {server : Server} {id : Nat} {transaction : Transaction}
      (held : server.connection id = .inTransaction transaction) (address : CellAddress)
      (content : Bytes) (access : Access) :
      Change (.connection id) server { server with handles := (server.handles.add
        ⟨id, transaction.number, address, .ofContent content, access, false, true⟩).2 }
  | setHandle {server : Server} {number : Nat} {old new : Handle}
      (found : server.handles.get? number = some old) (connection : new.connection = old.connection)
      (transaction : new.transaction = old.transaction) (address : new.address = old.address) :
      Change (.payload number) server (server.setHandle number new)
  /-- A handle was written back, in the transaction it was opened in. -/
  | writeCell {server : Server} {number : Nat} {handle : Handle} {transaction changed : Transaction}
      (found : server.handles.get? number = some handle)
      (held : server.connection handle.connection = .inTransaction transaction)
      (same : transaction.number = handle.transaction) {value : Value}
      (written : transaction.writeCell? handle.address value = some changed) :
      Change (.payload number) server
        (server.setConnection handle.connection (.inTransaction changed))
  | free {server : Server} (number : Nat) :
      Change (.payload number) server { server with handles := server.handles.free number }

/-- Changes one after another. -/
abbrev Changes (subject : Subject) : Server → Server → Prop :=
  Relation.ReflTransGen (Change subject)

namespace Handle

/-- The handle as it would be if it had been opened in another transaction. -/
def moved (handle : Handle) (connection transaction : Nat) : Handle :=
  { handle with connection := connection, transaction := transaction }

/-- Work on a handle that does not depend on the transaction the handle was opened in, and
leaves the handle in it and on its cell. -/
structure Blind {α : Type} (work : Handle → Except IoFault (α × Handle)) : Prop where
  moved : ∀ handle connection transaction, work (handle.moved connection transaction) =
    (work handle).map fun (answer, after) => (answer, after.moved connection transaction)
  address : ∀ {handle after answer}, work handle = .ok (answer, after) →
    after.address = handle.address

/-- Blind work behind a check of the handle that is blind as well. -/
theorem Blind.guarded {α : Type} {work : Handle → Except IoFault (α × Handle)} (blind : Blind work)
    (check : Handle → Except IoFault Unit)
    (same : ∀ handle connection transaction,
      check (handle.moved connection transaction) = check handle) :
    Blind fun handle => (check handle).bind fun _ => work handle where
  moved := by
    intro handle connection transaction
    dsimp only
    rw [same]
    cases check handle with
    | error fault => rfl
    | ok _ => exact blind.moved handle connection transaction
  address := by
    intro handle after answer worked
    obtain ⟨_, -, worked⟩ := Checked.bind_ok worked
    exact blind.address worked

/-- Reading is blind for the transaction. -/
theorem blind_read (count : Nat) : Blind (·.read count) := by
  have taken : Blind fun handle => .ok ((handle.file.read count).1,
      { handle with file := (handle.file.read count).2 }) :=
    ⟨fun _ _ _ => rfl, fun worked => by cases worked; rfl⟩
  exact taken.guarded requireReadable fun _ _ _ => rfl

/-- Writing is blind for the transaction. -/
theorem blind_write (data : Bytes) : Blind (·.write data) := by
  have written : Blind fun handle => .ok (data.length,
      { handle with file := handle.file.write data, dirty := true }) :=
    ⟨fun _ _ _ => rfl, fun worked => by cases worked; rfl⟩
  exact written.guarded requireWritable fun _ _ _ => rfl

/-- Seeking is blind for the transaction. -/
theorem blind_seek (destination : SeekTarget) : Blind (·.seek destination) := by
  have sought : Blind fun handle => do
      let file ← handle.file.seek destination
      return (file.position, { handle with file := file }) := by
    constructor
    case moved =>
      intro handle connection transaction
      dsimp only [Handle.moved]
      cases handle.file.seek destination <;> rfl
    case address =>
      intro handle after answer worked
      obtain ⟨file, -, worked⟩ := Checked.bind_ok worked
      cases worked
      rfl
  exact sought.guarded requireOpen fun _ _ _ => rfl

/-- Setting the length is blind for the transaction. -/
theorem blind_setLength (length : Nat) : Blind (·.setLength length) := by
  have cut : Blind fun handle => .ok ((),
      { handle with file := handle.file.setLength length, dirty := true }) :=
    ⟨fun _ _ _ => rfl, fun worked => by cases worked; rfl⟩
  exact cut.guarded requireWritable fun _ _ _ => rfl

/-- Blind work leaves a handle in the transaction it was opened in. -/
theorem Blind.stays {α : Type} {work : Handle → Except IoFault (α × Handle)} (blind : Blind work)
    {handle after : Handle} {answer : α} (worked : work handle = .ok (answer, after)) :
    after.connection = handle.connection ∧ after.transaction = handle.transaction := by
  have again := blind.moved handle handle.connection handle.transaction
  have same : handle.moved handle.connection handle.transaction = handle := rfl
  rw [same, worked] at again
  simp only [Except.map, Except.ok.injEq, Prod.mk.injEq, true_and] at again
  rw [again]
  exact ⟨rfl, rfl⟩

end Handle

namespace Server

/-- Counting, alone, is a change. -/
theorem changes_recount {subject : Subject} {before after : Server}
    (catalog : after.catalog = before.catalog) (connections : after.connections = before.connections)
    (handles : after.handles = before.handles) (transactions : after.transactions = before.transactions) :
    Changes subject before after :=
  .single (.recount catalog connections handles transactions)

/-- What opening a connection changes. -/
theorem changes_connect (server : Server) (settings : String) :
    Changes .server server (server.connect settings).2 := by
  unfold connect
  split
  · exact .refl
  · exact .tail (.single .connect) (.recount rfl rfl rfl rfl)

/-- What beginning a transaction changes. -/
theorem changes_beginTransaction (server : Server) (id : Nat) :
    Changes (.connection id) server (server.beginTransaction id).2 := by
  unfold beginTransaction
  split
  · exact .refl
  · exact .refl
  · rename_i ready
    split
    · exact changes_recount rfl rfl rfl rfl
    · exact .tail (.single (.begin ready)) (.recount rfl rfl rfl rfl)

/-- What committing changes. -/
theorem changes_commit (server : Server) (id : Nat) :
    Changes (.connection id) server (server.commit id).2 := by
  unfold commit
  split
  · exact .refl
  · exact .refl
  · rename_i transaction held
    have alive : server.connection id ≠ .closed := by simp [held]
    dsimp only
    split
    · have left : Change (.connection id) server (server.setConnection id .ready) :=
        .leave alive (by simp)
      exact .tail (.single left) (.recount rfl rfl rfl rfl)
    · exact .tail (.single (.commit held)) (.recount rfl rfl rfl rfl)

/-- What rolling back changes. -/
theorem changes_rollback (server : Server) (id : Nat) :
    Changes (.connection id) server (server.rollback id).2 := by
  unfold rollback
  split
  · exact .refl
  · exact .refl
  · rename_i transaction held
    have alive : server.connection id ≠ .closed := by simp [held]
    have left : Change (.connection id) server (server.setConnection id .ready) :=
      .leave alive (by simp)
    exact .tail (.single left) (.recount rfl rfl rfl rfl)

/-- What closing a connection changes. -/
theorem changes_close (server : Server) (id : Nat) :
    Changes (.connection id) server (server.close id) := by
  have closing (alive : server.connection id ≠ .closed) :
      Change (.connection id) server (server.setConnection id .closed) :=
    .leave alive (by simp)
  unfold close
  split
  · exact .refl
  · rename_i ready
    exact .tail (.single (closing (by simp [ready]))) (.recount rfl rfl rfl rfl)
  · rename_i transaction held
    exact .tail (.single (closing (by simp [held]))) (.recount rfl rfl rfl rfl)

/-- What running a statement changes. -/
theorem changes_run (server : Server) (id : Nat) (command : Command) :
    Changes (.connection id) server (server.run id command).2 := by
  by_cases closed : server.connection id = .closed
  · simp only [run, closed]
    exact .refl
  rw [run_of_alive closed, runOpen]
  split
  · exact .refl
  · split
    · exact changes_recount rfl rfl rfl rfl
    · rename_i effect ran
      cases written : effect.written with
      | none => exact changes_recount rfl rfl rfl rfl
      | some entry =>
        obtain ⟨file, table⟩ := entry
        exact .tail (.single (.statement closed ran written)) (.recount rfl rfl rfl rfl)

/-- What opening a payload changes. -/
theorem changes_openPayload (server : Server) (id : Nat) (path : String) (token : Bytes)
    (access : Access) : Changes (.connection id) server (server.openPayload id path token access).2 := by
  unfold openPayload
  split
  · exact .refl
  · exact .refl
  · rename_i transaction held
    split
    · exact .refl
    · split
      · exact .refl
      · rename_i address content led
        exact .tail (.single (.openPayload held address content access))
          (.recount rfl rfl rfl rfl)

/-- What work on a handle changes that does not depend on the handle's transaction. -/
theorem changes_onHandle {α : Type} (server : Server) (number : Nat)
    {work : Handle → Except IoFault (α × Handle)} (blind : Handle.Blind work) :
    Changes (.payload number) server (server.onHandle number work).2 := by
  unfold onHandle
  split
  · exact .refl
  · rename_i handle found
    split
    · exact .refl
    · rename_i answer after worked
      obtain ⟨connection, transaction⟩ := blind.stays worked
      exact .single (.setHandle found connection transaction (blind.address worked))

/-- What writing a handle back changes. -/
theorem changes_writeBack (server : Server) {number : Nat} {handle : Handle}
    (found : server.handles.get? number = some handle) :
    Changes (.payload number) server (server.writeBack number handle).2 := by
  unfold writeBack
  split
  · exact .refl
  · split
    · exact .refl
    · rename_i transaction active
      obtain ⟨held, same⟩ := connection_of_transactionOf? active
      split
      · exact .refl
      · rename_i changed written
        have wrote := Change.writeCell found held same written
        exact .tail (.single wrote) (.setHandle found rfl rfl rfl)

/-- What flushing a handle changes. -/
theorem changes_flushPayload (server : Server) (number : Nat) :
    Changes (.payload number) server (server.flushPayload number).2 := by
  unfold flushPayload
  split
  · exact .refl
  · rename_i handle found
    split
    · exact changes_writeBack server found
    · exact .refl

/-- What closing a handle changes. -/
theorem changes_closePayload (server : Server) (number : Nat) :
    Changes (.payload number) server (server.closePayload number).2 := by
  unfold closePayload
  split
  · exact .refl
  · rename_i handle found
    split
    · have closed : Change (.payload number) server
          (server.setHandle number { handle with isOpen := false }) :=
        .setHandle found rfl rfl rfl
      have kept : (server.setHandle number { handle with isOpen := false }).handles.get? number =
          some { handle with isOpen := false } := get?_setHandle found _
      exact .trans (.single closed) (changes_writeBack _ kept)
    · exact .refl

/-- What a call on a payload changes. -/
theorem changes_call (server : Server) (payload : Nat) (operation : FileOperation) :
    Changes (.payload payload) server ((operation.perform payload).perform server).2 := by
  cases operation <;> simp only [FileOperation.perform, Work.perform_map]
  case read count => exact changes_onHandle server payload (Handle.blind_read count)
  case write data => exact changes_onHandle server payload (Handle.blind_write data)
  case seek destination => exact changes_onHandle server payload (Handle.blind_seek destination)
  case setLength size => exact changes_onHandle server payload (Handle.blind_setLength size)
  case flush => exact changes_flushPayload server payload
  case position => exact changes_onHandle server payload (Handle.blind_seek _)
  case length => exact .refl

/-- **Whatever a request does is made up of changes of its subject.** -/
theorem changes_serve (server : Server) (request : Request) :
    Changes request.subject server (request.serve server) := by
  cases request with
  | createTable table blank => exact .single (.createTable table blank)
  | resetCounters => exact changes_recount rfl rfl rfl rfl
  | refuseNextBegin => exact changes_recount rfl rfl rfl rfl
  | refuseNextCommit => exact changes_recount rfl rfl rfl rfl
  | connect settings => exact changes_connect server settings
  | beginTransaction id => exact changes_beginTransaction server id
  | commit id => exact changes_commit server id
  | rollback id => exact changes_rollback server id
  | close id => exact changes_close server id
  | release id => exact .single (.release id)
  | execute id command =>
    simp only [Request.serve, execute_snd]
    exact changes_run server id command
  | query id command =>
    simp only [Request.serve, query_snd]
    have counted : Changes (.connection id) server server.countQuery :=
      changes_recount rfl rfl rfl rfl
    exact counted.trans (changes_run server.countQuery id command)
  | openPayload id path token access => exact changes_openPayload server id path token access
  | call payload operation => exact changes_call server payload operation
  | closePayload payload => exact changes_closePayload server payload
  | releasePayload payload =>
    exact .tail (changes_closePayload server payload) (.free payload)

/-- What every change on a subject keeps holds after any changes on it. -/
@[elab_as_elim] theorem keeps_changes {subject : Subject} {property : Server → Prop}
    {server after : Server} (changes : Changes subject server after) (holds : property server)
    (kept : ∀ {before later}, Change subject before later → property before → property later) :
    property after := by
  induction changes with
  | refl => exact holds
  | tail _ change inductionHypothesis => exact kept change inductionHypothesis

/-- Requests on a connection leave the other connections in their states. -/
theorem connection_of_changes {server after : Server} {id other : Nat}
    (changes : Changes (.connection id) server after) (different : other ≠ id) :
    after.connection other = server.connection other := by
  induction changes with
  | refl => rfl
  | @tail middle _ _ change inductionHypothesis =>
    rw [← inductionHypothesis]
    have aside (alive : middle.connection id ≠ .closed) (state : Connection) :
        (middle.setConnection id state).connection other = middle.connection other := by
      rw [connection_setConnection alive, if_neg different]
    cases change with
    | recount _ connections _ _ => rw [connection, connection, connections]
    | begin ready => exact aside (by simp [ready]) _
    | leave alive _ => exact aside alive _
    | commit held => exact aside (by simp [held]) _
    | release id => rw [connection_release, if_neg different]
    | statement alive _ _ =>
      cases connected : middle.connection id with
      | closed => exact absurd connected alive
      | ready => rfl
      | inTransaction transaction => exact aside alive _
    | openPayload _ _ _ _ => rfl

/-- What a new server has and every kind of change keeps, every reachable server has. -/
theorem Reachable.of_changes {property : Server → Prop}
    (start : ∀ secret, property (.ofSecret secret))
    (kept : ∀ {subject before after}, Change subject before after → property before →
      property after) {server : Server} (reached : server.Reachable) : property server := by
  induction reached with
  | start secret => exact start secret
  | @serve server _ request holds => exact keeps_changes (changes_serve server request) holds kept

end Server

end RowPayload.Engine
