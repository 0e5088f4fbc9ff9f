import RowPayload.Proofs.Engine.Publication
import RowPayload.Proofs.Engine.View

/-!
# Within a transaction

Statements on a connection that is in a transaction, and work on payloads, leave the
transaction in progress, whoever asks for them and in whatever order. What they do gathers in
the working copies of the transaction: these are what the connection sees, they are dropped
when the transaction is rolled back, and committing publishes those that were noted.
-/

namespace RowPayload.Engine

/-! ## Requests -/

/-- Statements on a connection. -/
inductive Request.IsStatement (id : Nat) : Request → Prop where
  | execute (command : Command) : IsStatement id (.execute id command)
  | query (command : Command) : IsStatement id (.query id command)

/-- Requests within a transaction of a connection: statements on the connection, work on
payloads, and faults that are asked for. -/
inductive Request.Within (id : Nat) : Request → Prop where
  | statement {request : Request} (statement : request.IsStatement id) : Within id request
  | openPayload (path : String) (token : Bytes) (access : Access) :
      Within id (.openPayload id path token access)
  | call (payload : Nat) (operation : FileOperation) : Within id (.call payload operation)
  | closePayload (payload : Nat) : Within id (.closePayload payload)
  | releasePayload (payload : Nat) : Within id (.releasePayload payload)
  | refuseNextBegin : Within id .refuseNextBegin
  | refuseNextCommit : Within id .refuseNextCommit

variable {id : Nat} {server : Server} {request : Request}

/-- A request within a transaction stays inside it. -/
theorem Request.Within.inside (within : request.Within id) {transaction : Transaction}
    (held : server.connection id = .inTransaction transaction) :
    server.Inside id (request.serve server) := by
  cases within with
  | statement statement =>
    cases statement with
    | execute command => exact Server.inside_execute held command
    | query command => exact Server.inside_query held command
  | openPayload path token access => exact Server.inside_openPayload id server id path token access
  | call payload operation => exact Server.inside_fileOperation id payload operation server
  | closePayload payload => exact Server.inside_closePayload id server payload
  | releasePayload payload => exact Server.inside_releasePayload id server payload
  | refuseNextBegin => exact .of_eq rfl rfl rfl
  | refuseNextCommit => exact .of_eq rfl rfl rfl

/-- Requests within a transaction stay inside it. -/
theorem Server.inside_requests {requests : List Request}
    (within : ∀ request ∈ requests, request.Within id) {transaction : Transaction}
    (held : server.connection id = .inTransaction transaction) :
    server.Inside id (requests.foldl Request.serve server) := by
  induction requests generalizing server transaction with
  | nil => exact .refl id server
  | cons first rest inductionHypothesis =>
    have step := (within first List.mem_cons_self).inside held
    obtain ⟨later, laterHeld, -⟩ := step.transaction transaction held
    have others : ∀ request ∈ rest, request.Within id :=
      fun request member => within request (List.mem_cons_of_mem first member)
    exact step.trans (inductionHypothesis others laterHeld)

/-- Allowed requests lead from one server to another. -/
def Server.ServesOnly (allowed : Request → Prop) (before after : Server) : Prop :=
  ∃ requests : List Request, (∀ request ∈ requests, allowed request) ∧
    after = requests.foldl Request.serve before

namespace Server.ServesOnly

variable {allowed : Request → Prop} {before middle after : Server}

/-- No request leads anywhere else. -/
theorem refl (server : Server) : server.ServesOnly allowed server := ⟨[], by simp, rfl⟩

/-- One request after others. -/
theorem tail (serves : before.ServesOnly allowed middle) (permitted : allowed request) :
    before.ServesOnly allowed (request.serve middle) := by
  obtain ⟨requests, all, rfl⟩ := serves
  refine ⟨requests ++ [request], ?_, by rw [List.foldl_append]; rfl⟩
  intro other member
  rcases List.mem_append.1 member with earlier | last
  · exact all other earlier
  · rwa [List.mem_singleton.1 last]

end Server.ServesOnly

/-! ## Working copies of the transactions in progress -/

/-- A transaction in progress, kept by hand from now on. -/
def Draft.ofTransaction (transaction : Transaction) : Draft :=
  ⟨transaction.number, transaction.token, transaction.origin, transaction.copies⟩

/-- The transactions in progress on a server, kept by hand from now on. -/
def Ledger.ofServer (server : Server) : Ledger := fun id =>
  match server.connection id with
  | .inTransaction transaction => some (.ofTransaction transaction)
  | .closed | .ready => none

/-- The ledger of a server agrees with it. -/
theorem Ledger.agrees_ofServer (server : Server) : (Ledger.ofServer server).Agrees server := by
  intro id
  unfold Ledger.ofServer
  cases server.connection id with
  | closed => rfl
  | ready => rfl
  | inTransaction transaction => exact ⟨rfl, transaction.copies_mirrors⟩

namespace Watched

variable {watched : Watched} {requests : List Request}

/-- A server and the ledger of its transactions. -/
def ofServer (server : Server) : Watched := ⟨server, .ofServer server⟩

/-- A server and its ledger after requests. -/
def serve (watched : Watched) (requests : List Request) : Watched :=
  requests.foldl
    (fun watched request =>
      ⟨request.serve watched.server, request.track watched.server watched.ledger⟩)
    watched

/-- The ledger has no bearing on the server. -/
theorem server_serve (watched : Watched) (requests : List Request) :
    (watched.serve requests).server = requests.foldl Request.serve watched.server := by
  unfold serve
  induction requests generalizing watched with
  | nil => rfl
  | cons first rest inductionHypothesis => exact inductionHypothesis _

/-- Along requests within a transaction the ledger agrees. -/
theorem agrees_serve (agrees : watched.ledger.Agrees watched.server)
    (within : ∀ request ∈ requests, request.Within id) :
    (watched.serve requests).ledger.Agrees (watched.serve requests).server := by
  unfold serve
  induction requests generalizing watched with
  | nil => exact agrees
  | cons first rest inductionHypothesis =>
    have others : ∀ request ∈ rest, request.Within id :=
      fun request member => within request (List.mem_cons_of_mem first member)
    refine inductionHypothesis (agrees.serve first ?_) others
    -- No request within a transaction opens a connection.
    rintro settings rfl
    cases within _ List.mem_cons_self with
    | statement statement => cases statement

end Watched

/-! ## What is pending -/

/-- All that was done since `base` within a transaction of a connection is pending in the
working copies of a draft. -/
structure Draft.Pending (draft : Draft) (base : Server) (id : Nat) (transaction : Transaction)
    (server : Server) : Prop where
  /-- The connection is in the same transaction still, of which the draft tells. -/
  inTransaction : ∃ later, server.connection id = .inTransaction later ∧
    later.identity = transaction.identity ∧ draft.Mirrors later
  /-- What the connection sees are the working copies. -/
  view : server.view id = draft.copy.tables.get?
  /-- No transaction has begun or ended, and no connection was opened or closed. -/
  account : server.counters.account = base.counters.account
  /-- Nothing was committed. -/
  catalog : server.catalog = base.catalog
  /-- Rolling back leaves what is committed as it was. -/
  rollback : (server.rollback id).1 = .ok () ∧ (server.rollback id).2.catalog = base.catalog
  /-- A commit that is not refused publishes the working copies of the tables noted. -/
  commit : (server.commit id).1 = .ok () → ∀ name,
    (server.commit id).2.catalog.get? name = draft.copy.publish base.catalog name

/-- **What is done within a transaction is pending** in the working copies that are kept of it
along the way. -/
theorem Watched.pending_serve {base : Server} {transaction : Transaction}
    (held : base.connection id = .inTransaction transaction) {requests : List Request}
    (within : ∀ request ∈ requests, request.Within id) :
    ∃ draft, ((Watched.ofServer base).serve requests).ledger id = some draft ∧
      draft.Pending base id transaction ((Watched.ofServer base).serve requests).server := by
  have start : (Watched.ofServer base).ledger.Agrees (Watched.ofServer base).server :=
    Ledger.agrees_ofServer base
  have agrees := agrees_serve start within
  have inside : base.Inside id ((Watched.ofServer base).serve requests).server := by
    rw [server_serve]
    exact Server.inside_requests within held
  generalize (Watched.ofServer base).serve requests = watched at agrees inside ⊢
  obtain ⟨later, laterHeld, same⟩ := inside.transaction transaction held
  obtain ⟨draft, listed, mirrors⟩ := agrees.mirrors laterHeld
  refine ⟨draft, listed, ?_⟩
  constructor
  case inTransaction => exact ⟨later, laterHeld, same, mirrors⟩
  case view =>
    funext name
    rw [Server.view, laterHeld]
    exact (mirrors.copy.tables name).symm
  case account => exact inside.account
  case catalog => exact inside.catalog
  case rollback =>
    refine ⟨by simp [Server.rollback, laterHeld], ?_⟩
    rw [← inside.catalog]
    simp [Server.rollback, laterHeld, Server.countRollback, Server.count, Server.setConnection]
  case commit =>
    intro done name
    have published := agrees.committed_commit id name
    simp only [Request.committed, Request.publishes, done, listed] at published
    rw [published, ← inside.catalog]
    rfl

end RowPayload.Engine
