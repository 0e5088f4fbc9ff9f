import RowPayload.Proofs.Engine.Numbering
import RowPayload.Proofs.Engine.WorkingCopy

/-!
# What is published

Along any requests a ledger is kept of the transactions in progress: for each the committed
tables when it began, and working copies that its statements and payload handles change in
place and note. The ledger agrees with the server. So a transaction changes no table without
a note, a commit publishes exactly the tables noted, and besides commits only the creation of
a table and a statement outside of a transaction change what is committed.
-/

namespace RowPayload.Engine

/-- A transaction in progress, kept by hand. -/
structure Draft where
  number : Nat
  token : Bytes
  /-- The committed tables when it began. -/
  snapshot : Catalog
  copy : WorkingCopy

/-- A draft comes to the same as a transaction. -/
structure Draft.Mirrors (draft : Draft) (transaction : Transaction) : Prop where
  identity : transaction.identity = (draft.number, draft.token, draft.snapshot)
  copy : draft.copy.Mirrors transaction

/-- The transactions in progress, by connection. -/
abbrev Ledger := Nat → Option Draft

namespace Ledger

/-- Enter or cross out the transaction of a connection. -/
def set (ledger : Ledger) (id : Nat) (entry : Option Draft) : Ledger :=
  fun other => if other = id then entry else ledger other

/-- Run a statement in the transaction of a connection, if there is one. -/
def run (ledger : Ledger) (id : Nat) (command : Command) : Ledger :=
  match ledger id, Sql.parse command.sql with
  | some draft, .ok statement =>
    match draft.copy.run command.parameters (some draft.token) statement with
    | .ok later => ledger.set id (some { draft with copy := later })
    | .error _ => ledger
  | _, _ => ledger

/-- Write a dirty handle back in the transaction it was opened in, if that goes on. -/
def writeBack (ledger : Ledger) (handle : Handle) : Ledger :=
  match ledger handle.connection with
  | none => ledger
  | some draft =>
    if handle.dirty ∧ draft.number = handle.transaction then
      match draft.copy.writeBack handle.address handle.file.content with
      | none => ledger
      | some later => ledger.set handle.connection (some { draft with copy := later })
    else ledger

/-- Write a handle back that is open. -/
def flush (ledger : Ledger) (server : Server) (payload : Nat) : Ledger :=
  match server.handles.get? payload with
  | none => ledger
  | some handle => if handle.isOpen then ledger.writeBack handle else ledger

end Ledger

/-- The ledger after a request to a server. -/
def Request.track (server : Server) (ledger : Ledger) : Request → Ledger
  | .beginTransaction id =>
    match (server.beginTransaction id).1 with
    | .error _ => ledger
    | .ok _ => ledger.set id (some ⟨server.transactions,
        Transaction.tokenOf server.secret server.transactions, server.catalog,
        .ofCatalog server.catalog⟩)
  | .commit id | .rollback id | .close id | .release id => ledger.set id none
  | .execute id command | .query id command => ledger.run id command
  | .call payload .flush | .closePayload payload | .releasePayload payload =>
    ledger.flush server payload
  | _ => ledger

/-- The working copies on which a statement outside of a transaction has run without a
failure. -/
def Server.copiesOf (server : Server) (id : Nat) (command : Command) : Option WorkingCopy :=
  match server.connection id, Sql.parse command.sql with
  | .ready, .ok statement =>
    ((WorkingCopy.ofCatalog server.catalog).run command.parameters none statement).toOption
  | _, _ => none

/-- The working copies from which a request publishes the tables noted: those of a
transaction whose commit is answered without a failure, or those on which a statement outside
of a transaction has run without one. -/
def Request.publishes (server : Server) (ledger : Ledger) : Request → Option WorkingCopy
  | .commit id =>
    match (server.commit id).1 with
    | .error _ => none
    | .ok _ => (ledger id).map Draft.copy
  | .execute id command | .query id command => server.copiesOf id command
  | _ => none

/-- The committed table under a name after working copies were published, if there are any. -/
def Server.committed (server : Server) (copies : Option WorkingCopy) (name : String) :
    Option Table :=
  copies.elim (server.catalog.get? name) fun copy => copy.publish server.catalog name

/-- The committed table under a name after a request. -/
def Request.committed (server : Server) (ledger : Ledger) (request : Request) (name : String) :
    Option Table :=
  match request with
  | .createTable table _ =>
    if name = fileName table.name then some table else server.catalog.get? name
  | other => server.committed (other.publishes server ledger) name

/-- A server and the ledger of its transactions. -/
structure Watched where
  server : Server
  ledger : Ledger

/-- Requests to a new server, with the ledger kept. -/
def Watched.serveAll (secret : Bytes) (requests : List Request) : Watched :=
  requests.foldl
    (fun watched request =>
      ⟨request.serve watched.server, request.track watched.server watched.ledger⟩)
    ⟨.ofSecret secret, fun _ => none⟩

/-! ## The ledger agrees with the server -/

/-- What the ledger has to say of a connection in a state. -/
def Connection.Kept : Connection → Option Draft → Prop
  | .inTransaction transaction, some draft => draft.Mirrors transaction
  | .inTransaction _, none => False
  | .closed, entry | .ready, entry => entry = none

/-- A ledger agrees with a server. -/
def Ledger.Agrees (ledger : Ledger) (server : Server) : Prop :=
  ∀ id, (server.connection id).Kept (ledger id)

namespace Ledger.Agrees

variable {ledger : Ledger} {server after : Server}

/-- The transaction of a connection is in the ledger. -/
theorem mirrors (agrees : ledger.Agrees server) {id : Nat} {transaction : Transaction}
    (held : server.connection id = .inTransaction transaction) :
    ∃ draft, ledger id = some draft ∧ draft.Mirrors transaction := by
  have kept := agrees id
  rw [held] at kept
  cases entry : ledger id with
  | none =>
    rw [entry] at kept
    exact kept.elim
  | some draft =>
    rw [entry] at kept
    exact ⟨draft, rfl, kept⟩

/-- A connection that is in no transaction is not in the ledger. -/
theorem eq_none (agrees : ledger.Agrees server) {id : Nat}
    (idle : ∀ transaction, server.connection id ≠ .inTransaction transaction) :
    ledger id = none := by
  have kept := agrees id
  cases connected : server.connection id with
  | closed => rwa [connected] at kept
  | ready => rwa [connected] at kept
  | inTransaction transaction => exact absurd connected (idle transaction)

/-- Only the connections bear on whether a ledger agrees. -/
theorem of_connections (agrees : ledger.Agrees server)
    (connections : after.connections = server.connections) : ledger.Agrees after := by
  intro id
  rw [Server.connection, connections]
  exact agrees id

/-- A connection may be put into a state that the ledger tells. -/
theorem set (agrees : ledger.Agrees server) {id : Nat} {entry : Option Draft}
    (own : (after.connection id).Kept entry)
    (others : ∀ other, other ≠ id → after.connection other = server.connection other) :
    (ledger.set id entry).Agrees after := by
  intro other
  unfold Ledger.set
  split
  · rename_i here
    rw [here]
    exact own
  · rename_i different
    rw [others other different]
    exact agrees other

/-- Putting an open connection into a state that the ledger tells. -/
theorem setConnection (agrees : ledger.Agrees server) {id : Nat}
    (alive : server.connection id ≠ .closed) {state : Connection} {entry : Option Draft}
    (own : state.Kept entry) : (ledger.set id entry).Agrees (server.setConnection id state) := by
  apply agrees.set
  · rw [Server.connection_setConnection alive, if_pos rfl]
    exact own
  · intro other different
    rw [Server.connection_setConnection alive, if_neg different]

/-- Crossing out a connection that is in no transaction changes nothing. -/
theorem set_none (agrees : ledger.Agrees server) {id : Nat}
    (idle : ∀ transaction, server.connection id ≠ .inTransaction transaction) :
    (ledger.set id none).Agrees server := by
  have same : ledger.set id none = ledger := by
    funext other
    unfold Ledger.set
    split
    · rename_i here
      rw [here, agrees.eq_none idle]
    · rfl
  rw [same]
  exact agrees

/-- Connecting opens a connection that was not in the ledger. -/
theorem connect (agrees : ledger.Agrees server) (numbered : server.Numbered)
    (settings : String) : ledger.Agrees (server.connect settings).2 := by
  unfold Server.connect
  split
  · exact agrees
  · intro id
    show (((server.connections.add .ready).2.get? id).getD .closed).Kept (ledger id)
    rw [Slots.get?_add]
    split
    · rename_i new
      have closed : server.connection id = .closed := new ▸ numbered.connection_next
      exact agrees.eq_none fun _ held => nomatch closed.symm.trans held
    · exact agrees id

/-- Beginning enters a transaction, with the committed tables of that moment. -/
theorem beginTransaction (agrees : ledger.Agrees server) (id : Nat) :
    ((Request.beginTransaction id).track server ledger).Agrees (server.beginTransaction id).2 := by
  simp only [Request.track]
  unfold Server.beginTransaction
  cases connected : server.connection id with
  | closed => exact agrees
  | inTransaction transaction => exact agrees
  | ready =>
    by_cases refused : server.failNextBegin
    · simp only [refused, if_true]
      exact agrees.of_connections rfl
    · simp only [refused]
      have alive : server.connection id ≠ .closed := by simp [connected]
      have began : (Connection.inTransaction
          (.start server.secret server.transactions server.catalog)).Kept
          (some ⟨server.transactions, Transaction.tokenOf server.secret server.transactions,
            server.catalog, .ofCatalog server.catalog⟩) := ⟨rfl, .start _ _ _⟩
      exact (agrees.setConnection alive began).of_connections rfl

/-- Committing crosses the transaction out. -/
theorem commit (agrees : ledger.Agrees server) (id : Nat) :
    (ledger.set id none).Agrees (server.commit id).2 := by
  unfold Server.commit
  cases connected : server.connection id with
  | closed => exact agrees.set_none (by simp [connected])
  | ready => exact agrees.set_none (by simp [connected])
  | inTransaction transaction =>
    have alive : server.connection id ≠ .closed := by simp [connected]
    have ended : (ledger.set id none).Agrees (server.setConnection id .ready) :=
      agrees.setConnection alive rfl
    dsimp only
    split
    · exact ended.of_connections rfl
    · exact ended.of_connections rfl

/-- Rolling back crosses the transaction out. -/
theorem rollback (agrees : ledger.Agrees server) (id : Nat) :
    (ledger.set id none).Agrees (server.rollback id).2 := by
  unfold Server.rollback
  cases connected : server.connection id with
  | closed => exact agrees.set_none (by simp [connected])
  | ready => exact agrees.set_none (by simp [connected])
  | inTransaction transaction =>
    have alive : server.connection id ≠ .closed := by simp [connected]
    have ended : (ledger.set id none).Agrees (server.setConnection id .ready) :=
      agrees.setConnection alive rfl
    exact ended.of_connections rfl

/-- Closing a connection crosses its transaction out. -/
theorem close (agrees : ledger.Agrees server) (id : Nat) :
    (ledger.set id none).Agrees (server.close id) := by
  have closing (alive : server.connection id ≠ .closed) :
      (ledger.set id none).Agrees (server.setConnection id .closed) :=
    agrees.setConnection alive rfl
  unfold Server.close
  cases connected : server.connection id with
  | closed => exact agrees.set_none (by simp [connected])
  | ready => exact (closing (by simp [connected])).of_connections rfl
  | inTransaction transaction => exact (closing (by simp [connected])).of_connections rfl

/-- Releasing a connection crosses its transaction out. -/
theorem release (agrees : ledger.Agrees server) (id : Nat) :
    (ledger.set id none).Agrees (server.release id) := by
  apply agrees.set
  · rw [Server.connection_release, if_pos rfl]
    rfl
  · intro other different
    rw [Server.connection_release, if_neg different]

/-- A statement outside of a transaction changes no connection. -/
theorem connections_run_ready {id : Nat} (ready : server.connection id = .ready)
    (command : Command) : (server.run id command).2.connections = server.connections := by
  simp only [Server.run, ready, Server.runOpen]
  cases Sql.parse command.sql with
  | error fault => rfl
  | ok statement =>
    dsimp only
    cases (server.scene .ready command.parameters).run statement with
    | error failure => rfl
    | ok effect =>
      dsimp only
      cases effect.written <;> rfl

/-- A statement changes the working copies of its transaction in place. -/
theorem run (agrees : ledger.Agrees server) (id : Nat) (command : Command) :
    (ledger.run id command).Agrees (server.run id command).2 := by
  cases connected : server.connection id with
  | closed =>
    have unlisted : ledger id = none := agrees.eq_none (by simp [connected])
    simp only [Server.run, connected, Ledger.run, unlisted]
    exact agrees
  | ready =>
    have unlisted : ledger id = none := agrees.eq_none (by simp [connected])
    simp only [Ledger.run, unlisted]
    exact agrees.of_connections (connections_run_ready connected command)
  | inTransaction transaction =>
    obtain ⟨draft, listed, mirrors⟩ := agrees.mirrors connected
    have token : draft.token = transaction.token :=
      congrArg (fun identity => identity.2.1) mirrors.identity.symm
    simp only [Server.run, connected, Server.runOpen, Ledger.run, listed]
    cases Sql.parse command.sql with
    | error fault => exact agrees
    | ok statement =>
      have scene : draft.copy.scene command.parameters (some draft.token) =
          server.scene (.inTransaction transaction) command.parameters := by
        rw [mirrors.copy.scene_eq, token]
        rfl
      dsimp only
      rw [WorkingCopy.run_eq, scene]
      cases (server.scene (.inTransaction transaction) command.parameters).run statement with
      | error failure => exact agrees.of_connections rfl
      | ok effect =>
        have alive : server.connection id ≠ .closed := by simp [connected]
        dsimp only [Except.map]
        cases effect.written with
        | none =>
          have kept : (Connection.inTransaction transaction).Kept (some draft) := mirrors
          refine Agrees.of_connections (agrees.set ?_ fun _ _ => rfl) rfl
          rw [connected]
          exact kept
        | some entry =>
          have written : (Connection.inTransaction (transaction.writeTable entry.1 entry.2)).Kept
              (some { draft with copy := draft.copy.take (some (entry.1, entry.2)) }) :=
            ⟨mirrors.identity, mirrors.copy.writeTable entry.1 entry.2⟩
          exact (agrees.setConnection alive written).of_connections rfl

/-- A handle is written back in place, in the same transaction as on the server. -/
theorem writeBack (agrees : ledger.Agrees server) (payload : Nat) (handle : Handle) :
    (ledger.writeBack handle).Agrees (server.writeBack payload handle).2 := by
  unfold Ledger.writeBack Server.writeBack Server.transactionOf?
  by_cases dirty : handle.dirty
  · cases connected : server.connection handle.connection with
    | closed =>
      rw [agrees.eq_none (by simp [connected])]
      simpa [dirty] using agrees
    | ready =>
      rw [agrees.eq_none (by simp [connected])]
      simpa [dirty] using agrees
    | inTransaction transaction =>
      obtain ⟨draft, listed, mirrors⟩ := agrees.mirrors connected
      have number : draft.number = transaction.number :=
        congrArg Prod.fst mirrors.identity.symm
      rw [listed]
      dsimp only
      rw [if_neg (not_not_intro dirty)]
      by_cases same : draft.number = handle.transaction
      · have stays : transaction.number = handle.transaction := number.symm.trans same
        rw [if_pos ⟨dirty, same⟩, if_pos stays]
        dsimp only
        rcases mirrors.copy.writeBack handle.address handle.file.content with
          ⟨gone, otherGone⟩ | ⟨later, changed, wrote, otherWrote, still, identity⟩
        · rw [gone, otherGone]
          exact agrees
        · rw [wrote, otherWrote]
          have alive : server.connection handle.connection ≠ .closed := by simp [connected]
          have written : (Connection.inTransaction changed).Kept
              (some { draft with copy := later }) := ⟨identity.trans mirrors.identity, still⟩
          exact (agrees.setConnection alive written).of_connections rfl
      · have other : transaction.number ≠ handle.transaction := number ▸ same
        rw [if_neg fun both => same both.2, if_neg other]
        exact agrees
  · cases listed : ledger handle.connection <;> simpa [dirty] using agrees

/-- A handle that is open is flushed in place. -/
theorem flushPayload (agrees : ledger.Agrees server) (payload : Nat) :
    (ledger.flush server payload).Agrees (server.flushPayload payload).2 := by
  unfold Ledger.flush Server.flushPayload
  cases server.handles.get? payload with
  | none => exact agrees
  | some handle =>
    dsimp only
    split
    · exact agrees.writeBack payload handle
    · exact agrees

/-- Closing a handle flushes it in place. -/
theorem closePayload (agrees : ledger.Agrees server) (payload : Nat) :
    (ledger.flush server payload).Agrees (server.closePayload payload).2 := by
  unfold Ledger.flush Server.closePayload
  cases server.handles.get? payload with
  | none => exact agrees
  | some handle =>
    dsimp only
    split
    · have closed : ledger.Agrees
          (server.setHandle payload { handle with isOpen := false }) := agrees.of_connections rfl
      exact closed.writeBack payload { handle with isOpen := false }
    · exact agrees

/-- Work on a handle alone does not bear on the ledger. -/
theorem onHandle (agrees : ledger.Agrees server) (payload : Nat) {α : Type}
    (work : Handle → Except IoFault (α × Handle)) :
    ledger.Agrees (server.onHandle payload work).2 := by
  unfold Server.onHandle
  split
  · exact agrees
  · split
    · exact agrees
    · exact agrees.of_connections rfl

/-- Opening a payload does not bear on the ledger. -/
theorem openPayload (agrees : ledger.Agrees server) (id : Nat) (path : String) (token : Bytes)
    (access : Access) : ledger.Agrees (server.openPayload id path token access).2 := by
  unfold Server.openPayload
  split
  · exact agrees
  · exact agrees
  · split
    · exact agrees
    · split
      · exact agrees
      · exact agrees.of_connections rfl

/-- **After every request the ledger agrees.** Only a new connection has to have a new number. -/
theorem serve (agrees : ledger.Agrees server) (request : Request)
    (numbered : ∀ settings, request = .connect settings → server.Numbered) :
    (request.track server ledger).Agrees (request.serve server) := by
  cases request with
  | createTable table blank => exact agrees.of_connections rfl
  | resetCounters => exact agrees.of_connections rfl
  | refuseNextBegin => exact agrees.of_connections rfl
  | refuseNextCommit => exact agrees.of_connections rfl
  | connect settings => exact agrees.connect (numbered settings rfl) settings
  | beginTransaction id => exact agrees.beginTransaction id
  | commit id => exact agrees.commit id
  | rollback id => exact agrees.rollback id
  | close id => exact agrees.close id
  | release id => exact agrees.release id
  | execute id command =>
    simp only [Request.serve, Server.execute_snd]
    exact agrees.run id command
  | query id command =>
    simp only [Request.serve, Server.query_snd]
    have counted : ledger.Agrees server.countQuery := agrees.of_connections rfl
    exact counted.run id command
  | openPayload id path token access => exact agrees.openPayload id path token access
  | call payload operation =>
    cases operation <;> simp only [Request.serve, Request.track, FileOperation.perform,
      Work.perform_map]
    case read count => exact agrees.onHandle payload _
    case write data => exact agrees.onHandle payload _
    case seek destination => exact agrees.onHandle payload _
    case setLength size => exact agrees.onHandle payload _
    case flush => exact agrees.flushPayload payload
    case position => exact agrees.onHandle payload _
    case length => exact agrees
  | closePayload payload => exact agrees.closePayload payload
  | releasePayload payload => exact (agrees.closePayload payload).of_connections rfl

end Ledger.Agrees

/-- Requests to a new server lead to a reachable one. -/
theorem Watched.reachable (secret : Bytes) (requests : List Request) :
    (serveAll secret requests).server.Reachable := by
  unfold serveAll
  generalize start : (⟨.ofSecret secret, fun _ => none⟩ : Watched) = watched
  have reached : watched.server.Reachable := start ▸ .start secret
  clear start
  induction requests generalizing watched with
  | nil => exact reached
  | cons request rest inductionHypothesis => exact inductionHypothesis _ (reached.serve request)

/-- Along any requests to a new server the ledger agrees. -/
theorem Watched.agrees (secret : Bytes) (requests : List Request) :
    (serveAll secret requests).ledger.Agrees (serveAll secret requests).server := by
  unfold serveAll
  generalize start : (⟨.ofSecret secret, fun _ => none⟩ : Watched) = watched
  have reached : watched.server.Reachable := start ▸ .start secret
  have agrees : watched.ledger.Agrees watched.server := start ▸ fun _ => rfl
  clear start
  induction requests generalizing watched with
  | nil => exact agrees
  | cons request rest inductionHypothesis =>
    have numbered : ∀ settings, request = .connect settings → watched.server.Numbered :=
      fun _ _ => reached.numbered
    exact inductionHypothesis _ (reached.serve request) (agrees.serve request numbered)

/-! ## What requests publish -/

namespace Ledger.Agrees

variable {server : Server} {ledger : Ledger}

/-- Requests to a payload publish nothing. -/
theorem catalog_of_payload {payload : Nat} {after : Server}
    (changes : Changes (.payload payload) server after) : after.catalog = server.catalog := by
  refine Server.keeps_changes changes rfl ?_
  intro before later change same
  rw [← same]
  cases change with
  | recount catalog _ _ _ => exact catalog
  | setHandle _ _ _ _ => rfl
  | writeCell _ _ _ _ => rfl
  | free _ => rfl

/-- A commit publishes the tables noted by its transaction, if it is answered without a
failure. -/
theorem committed_commit (agrees : ledger.Agrees server) (id : Nat) (name : String) :
    (server.commit id).2.catalog.get? name = (Request.commit id).committed server ledger name := by
  simp only [Request.committed, Request.publishes]
  unfold Server.commit
  cases connected : server.connection id with
  | closed => rfl
  | ready => rfl
  | inTransaction transaction =>
    by_cases refused : server.failNextCommit
    · simp only [refused, if_true]
      rfl
    · obtain ⟨draft, listed, mirrors⟩ := agrees.mirrors connected
      simp only [refused, listed]
      show ((server.setConnection id .ready).publish transaction.changed).catalog.get? name =
        draft.copy.publish server.catalog name
      rw [Server.get?_publish, mirrors.copy.publish]
      rfl

/-- A statement publishes what it has noted, if it runs outside of a transaction and without a
failure. -/
theorem committed_run (server : Server) (id : Nat) (command : Command) (name : String) :
    (server.run id command).2.catalog.get? name =
      server.committed (server.copiesOf id command) name := by
  unfold Server.committed Server.copiesOf
  cases connected : server.connection id with
  | closed =>
    simp only [Server.run, connected]
    rfl
  | inTransaction transaction =>
    rw [(Server.inside_run connected command).catalog]
    rfl
  | ready =>
    simp only [Server.run, connected, Server.runOpen]
    cases Sql.parse command.sql with
    | error fault => rfl
    | ok statement =>
      have scene : (WorkingCopy.ofCatalog server.catalog).scene command.parameters none =
          server.scene .ready command.parameters := rfl
      dsimp only
      rw [WorkingCopy.run_eq, scene]
      cases (server.scene .ready command.parameters).run statement with
      | error failure => rfl
      | ok effect =>
        simp only [Except.map, Except.toOption]
        cases effect.written with
        | none => rfl
        | some entry =>
          obtain ⟨file, table⟩ := entry
          show (server.catalog.insert file table).get? name = _
          exact (WorkingCopy.publish_take server.catalog file table name).symm

/-- **After every request the committed tables are those told.** -/
theorem committed (agrees : ledger.Agrees server) (request : Request) (name : String) :
    (request.serve server).catalog.get? name = request.committed server ledger name := by
  cases request with
  | createTable table blank => exact OrderedMap.get?_insert _ _ _ _
  | resetCounters => rfl
  | refuseNextBegin => rfl
  | refuseNextCommit => rfl
  | connect settings =>
    simp only [Request.serve, Server.connect]
    split <;> rfl
  | beginTransaction id =>
    simp only [Request.serve, Server.beginTransaction]
    split
    · rfl
    · rfl
    · split <;> rfl
  | commit id => exact agrees.committed_commit id name
  | rollback id =>
    simp only [Request.serve, Server.rollback]
    split <;> rfl
  | close id =>
    simp only [Request.serve, Server.close]
    split <;> rfl
  | release id => rfl
  | execute id command =>
    simp only [Request.serve, Server.execute_snd]
    exact committed_run server id command name
  | query id command =>
    simp only [Request.serve, Server.query_snd]
    exact committed_run server.countQuery id command name
  | openPayload id path token access =>
    have kept := (Server.inside_openPayload id server id path token access).catalog
    simp only [Request.serve, kept]
    rfl
  | call payload operation =>
    have kept := catalog_of_payload (Server.changes_call server payload operation)
    simp only [Request.serve, kept]
    rfl
  | closePayload payload =>
    have kept := catalog_of_payload (Server.changes_closePayload server payload)
    simp only [Request.serve, kept]
    rfl
  | releasePayload payload =>
    have kept := catalog_of_payload (Server.changes_closePayload server payload)
    simp only [Request.serve, Server.releasePayload, kept]
    rfl

end Ledger.Agrees

/-- **A commit publishes everything its transaction has changed, and nothing else changes what
is committed.** After any requests to a new server, every transaction in progress is told by
the ledger, and a table without a note is the table that was committed when it began. And
whatever is requested next, the committed tables change by the creation of a table, by a
commit without a failure, which puts the working copies of the tables noted in their place,
and by a statement that runs outside of a transaction without a failure. -/
theorem publishes_noted_tables (secret : Bytes) (requests : List Request) :
    (∀ id transaction,
      (Watched.serveAll secret requests).server.connection id = .inTransaction transaction →
      ∃ draft, (Watched.serveAll secret requests).ledger id = some draft ∧
        draft.Mirrors transaction ∧
        ∀ name, name ∉ draft.copy.touched →
          draft.copy.tables.get? name = draft.snapshot.get? name) ∧
    ∀ request name,
      (Request.serve (Watched.serveAll secret requests).server request).catalog.get? name =
        request.committed (Watched.serveAll secret requests).server
          (Watched.serveAll secret requests).ledger name := by
  have agrees := Watched.agrees secret requests
  constructor
  · intro id transaction held
    obtain ⟨draft, listed, mirrors⟩ := agrees.mirrors held
    refine ⟨draft, listed, mirrors, ?_⟩
    intro name unnoted
    have snapshot : transaction.origin = draft.snapshot :=
      congrArg (fun identity => identity.2.2) mirrors.identity
    rw [mirrors.copy.untouched unnoted, snapshot]
  · intro request name
    exact agrees.committed request name

end RowPayload.Engine
