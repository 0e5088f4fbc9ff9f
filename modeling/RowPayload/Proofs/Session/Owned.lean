import RowPayload.Engine.Backend
import RowPayload.Proofs.Engine.Inside
import RowPayload.Proofs.Session.Confined
import RowPayload.Session.Stream

/-!
# The life of an owned connection

A session that owns its connection goes through two states, told from the server it
started on: `Begun`, as long as its transaction is in progress, and then `Committed` or
`RolledBack`, in which the connection is closed and exactly one end of the transaction
was counted. Everything a session does in the first state is a step inside the
transaction; only committing and rolling back leave it.
-/

namespace RowPayload

open Engine

namespace Engine.Server

/-- A connection was opened since `base` and its transaction is in progress. -/
structure Begun (base : Server) (id : Nat) (server : Server) : Prop where
  transaction : ∃ transaction, server.connection id = .inTransaction transaction ∧
    transaction.origin = base.catalog
  catalog : server.catalog = base.catalog
  account : server.counters.account = base.counters.account.withOpened.withBegin

/-- A connection was opened since `base`, its transaction was committed, and it is
closed. -/
structure Committed (base : Server) (id : Nat) (server : Server) : Prop where
  closed : server.connection id = .closed
  account : server.counters.account =
    base.counters.account.withOpened.withBegin.withCommit.withClosed

/-- A connection was opened since `base`, its transaction was rolled back, and it is
closed. Nothing was published. -/
structure RolledBack (base : Server) (id : Nat) (server : Server) : Prop where
  closed : server.connection id = .closed
  account : server.counters.account =
    base.counters.account.withOpened.withBegin.withRollback.withClosed
  catalog : server.catalog = base.catalog

/-- A transaction that began stays so inside it. -/
theorem Begun.inside {base before after : Server} {id : Nat} (begun : Begun base id before)
    (inside : Inside id before after) : Begun base id after where
  transaction := by
    obtain ⟨transaction, held, origin⟩ := begun.transaction
    obtain ⟨later, laterHeld, same⟩ := inside.transaction transaction held
    refine ⟨later, laterHeld, ?_⟩
    rw [← origin]
    exact congrArg (fun identity => identity.2.2) same
  catalog := inside.catalog.trans begun.catalog
  account := inside.account.trans begun.account

/-- A server from which only a closed connection was released is as it was. -/
theorem Committed.release {base server : Server} {id : Nat} (committed : Committed base id server) :
    Committed base id (server.release id) where
  closed := by simp [connection_release]
  account := committed.account

/-- A server from which only a closed connection was released is as it was. -/
theorem RolledBack.release {base server : Server} {id : Nat}
    (rolledBack : RolledBack base id server) : RolledBack base id (server.release id) where
  closed := by simp [connection_release]
  account := rolledBack.account
  catalog := rolledBack.catalog

/-! ## Ends of a transaction -/

/-- Closing a connection never fails. -/
theorem perform_close (server : Server) (id : Nat) :
    (Backend.close id : Work Error Server Unit).perform server = (.ok (), server.close id) := rfl

/-- A failure to commit is reported as a refusal. -/
theorem perform_commit (server : Server) (id : Nat) :
    (Backend.commit id : Work Error Server Unit).perform server =
      ((server.commit id).1.mapError Error.ofEngine, (server.commit id).2) := rfl

/-- A connection that was closed is closed, and the others are as they were. -/
theorem connection_close (server : Server) (id other : Nat) :
    (server.close id).connection other =
      if other = id then .closed else server.connection other := by
  unfold close
  cases held : server.connection id with
  | closed =>
    show server.connection other = _
    split
    · rename_i same
      rw [same, held]
    · rfl
  | ready =>
    have alive : server.connection id ≠ .closed := by simp [held]
    rw [connection_count, connection_setConnection alive]
  | inTransaction transaction =>
    have alive : server.countRollback.connection id ≠ .closed := by
      simp [countRollback, connection_count, held]
    rw [connection_count, connection_setConnection alive, countRollback, connection_count]

/-- Closing a connection without a transaction closes and counts it. -/
theorem close_ready {server : Server} {id : Nat} (ready : server.connection id = .ready) :
    (server.close id).connection id = .closed ∧ (server.close id).catalog = server.catalog ∧
      (server.close id).counters.account = server.counters.account.withClosed := by
  refine ⟨by rw [connection_close, if_pos rfl], ?_⟩
  simp only [close, ready]
  exact ⟨rfl, rfl⟩

/-- A transaction that ended without being published is rolled back once its connection
is closed. -/
theorem Begun.rolledBack {base server ended : Server} {id : Nat} (begun : Begun base id server)
    (ready : ended.connection id = .ready) (catalog : ended.catalog = server.catalog)
    (account : ended.counters.account = server.counters.account.withRollback) :
    RolledBack base id (ended.close id) := by
  obtain ⟨closed, kept, counted⟩ := close_ready ready
  refine ⟨closed, ?_, ?_⟩
  · rw [counted, account, begun.account]
  · rw [kept, catalog, begun.catalog]

/-- A connection in a transaction that is put back is without one. -/
theorem connection_setReady {server : Server} {id : Nat} {transaction : Transaction}
    (held : server.connection id = .inTransaction transaction) :
    (server.setConnection id .ready).connection id = .ready := by
  have alive : server.connection id ≠ .closed := by simp [held]
  rw [connection_setConnection alive, if_pos rfl]

/-- A commit that is not refused publishes what its transaction has changed. -/
theorem commit_eq_of_allowed {server : Server} {id : Nat} {transaction : Transaction}
    (held : server.connection id = .inTransaction transaction)
    (allowed : server.failNextCommit = false) :
    server.commit id =
      (.ok (), ((server.setConnection id .ready).publish transaction.changed).count
        fun counters => { counters with commits := counters.commits + 1 }) := by
  simp [Server.commit, held, allowed]

/-- A commit that is refused rolls back. -/
theorem commit_eq_of_refused {server : Server} {id : Nat} {transaction : Transaction}
    (held : server.connection id = .inTransaction transaction)
    (refused : server.failNextCommit = true) :
    server.commit id = (.error (.injected "commit"),
      { server.setConnection id .ready with failNextCommit := false }.countRollback) := by
  simp [Server.commit, held, refused]

/-- Closing a connection publishes nothing. -/
theorem catalog_close (server : Server) (id : Nat) :
    (server.close id).catalog = server.catalog := by
  unfold close
  split <;> rfl

/-- A commit that is not refused leaves the session committed. -/
theorem Begun.commit {base server : Server} {id : Nat} (begun : Begun base id server)
    (allowed : server.failNextCommit = false) :
    (server.commit id).1 = .ok () ∧ Committed base id ((server.commit id).2.close id) := by
  obtain ⟨transaction, held, -⟩ := begun.transaction
  have ended := commit_eq_of_allowed held allowed
  have ready : (server.commit id).2.connection id = .ready := by
    rw [ended]
    exact connection_setReady held
  have account : (server.commit id).2.counters.account = server.counters.account.withCommit := by
    rw [ended]
    rfl
  obtain ⟨closed, -, counted⟩ := close_ready ready
  exact ⟨by rw [ended], closed, by rw [counted, account, begun.account]⟩

/-- A refused commit leaves the session rolled back. -/
theorem Begun.commit_refused {base server : Server} {id : Nat} (begun : Begun base id server)
    (refused : server.failNextCommit = true) :
    (server.commit id).1 = .error (.injected "commit") ∧
      RolledBack base id ((server.commit id).2.close id) := by
  obtain ⟨transaction, held, -⟩ := begun.transaction
  rw [commit_eq_of_refused held refused]
  exact ⟨rfl, begun.rolledBack (connection_setReady held) rfl rfl⟩

/-- Rolling back leaves the session rolled back. -/
theorem Begun.rollback {base server : Server} {id : Nat} (begun : Begun base id server) :
    (server.rollback id).1 = .ok () ∧ RolledBack base id ((server.rollback id).2.close id) := by
  obtain ⟨transaction, held, -⟩ := begun.transaction
  have ended : server.rollback id =
      (.ok (), (server.setConnection id .ready).countRollback) := by
    simp [Server.rollback, held]
  rw [ended]
  exact ⟨rfl, begun.rolledBack (connection_setReady held) rfl rfl⟩

end Engine.Server

/-! ## Sessions -/

variable {ε : Type} {base : Server} {id : Nat}

/-- A context that owns a connection and whose transaction is, for all it knows, in
progress. -/
structure Scope.Holding (id : Nat) (scope : Scope Server ε) : Prop where
  owned : scope.context.owned = true
  connection : scope.context.connection = id
  active : scope.context.state = .active

/-- A context that owns a connection with its transaction in progress. -/
structure Scope.Live (base : Server) (id : Nat) (scope : Scope Server ε) : Prop where
  owned : scope.context.owned = true
  connection : scope.context.connection = id
  active : scope.context.state = .active
  begun : Server.Begun base id scope.store

/-- A context that owns a connection, with its transaction in progress or over, as its
state says. A commit that was refused has rolled the transaction back. -/
structure Scope.Standing (base : Server) (id : Nat) (scope : Scope Server ε) : Prop where
  owned : scope.context.owned = true
  connection : scope.context.connection = id
  state : match scope.context.state with
    | .active => Server.Begun base id scope.store
    | .committed =>
      Server.Committed base id scope.store ∨ Server.RolledBack base id scope.store
    | .rolledBack => Server.RolledBack base id scope.store

namespace Scope

variable {scope : Scope Server ε}

theorem Live.holding (live : scope.Live base id) : scope.Holding id :=
  ⟨live.owned, live.connection, live.active⟩

theorem Live.standing (live : scope.Live base id) : scope.Standing base id where
  owned := live.owned
  connection := live.connection
  state := by
    rw [live.active]
    exact live.begun

theorem Standing.live (standing : scope.Standing base id)
    (active : scope.context.state = .active) : scope.Live base id where
  owned := standing.owned
  connection := standing.connection
  active := active
  begun := by simpa [active] using standing.state

/-- A step inside the transaction leaves the context as it is. -/
theorem Live.inside (live : scope.Live base id) {after : Server}
    (inside : Server.Inside id scope.store after) :
    ({ scope with store := after } : Scope Server ε).Live base id :=
  ⟨live.owned, live.connection, live.active, live.begun.inside inside⟩

end Scope

namespace Context

variable {α : Type} {scope : Scope Server ε}

/-- While the transaction is in progress, work with the connection is done. -/
theorem perform_onConnection (work : Nat → Work Error Server α)
    (active : scope.context.state = .active) :
    (onConnection work : Scoped Server ε α).perform scope =
      (((work scope.context.connection).perform scope.store).1,
        { scope with store := ((work scope.context.connection).perform scope.store).2 }) := by
  simp [onConnection, requireActive, Work.perform_bind, Scope.onStore, active]

/-- A finished context does no work with its connection. -/
theorem perform_onConnection_finished (work : Nat → Work Error Server α)
    (finished : scope.context.state ≠ .active) :
    (onConnection work : Scoped Server ε α).perform scope =
      (.error (.transactionFinished scope.context.state.name), scope) := by
  simp [onConnection, requireActive, Work.perform_bind, finished]

/-- Work that stays inside the transaction of the connection keeps the context live. -/
theorem keepsLive_onConnection {work : Nat → Work Error Server α}
    (inside : ∀ server transaction, server.connection id = .inTransaction transaction →
      Server.Inside id server ((work id).perform server).2) :
    Work.Keeps (Scope.Live base id) (onConnection work : Scoped Server ε α) := by
  intro scope live
  rw [perform_onConnection work live.active, live.connection]
  obtain ⟨transaction, held, -⟩ := live.begun.transaction
  exact live.inside (inside scope.store transaction held)

/-- Work that keeps the context live keeps it standing if a finished context does not do
it. -/
theorem keepsStanding_onConnection {work : Nat → Work Error Server α}
    (inside : ∀ server transaction, server.connection id = .inTransaction transaction →
      Server.Inside id server ((work id).perform server).2) :
    Work.Keeps (Scope.Standing base id) (onConnection work : Scoped Server ε α) := by
  intro scope standing
  by_cases active : scope.context.state = .active
  · exact (keepsLive_onConnection inside scope (standing.live active)).standing
  · rw [perform_onConnection_finished work active]
    exact standing

/-- A finished context is not finished again. -/
theorem perform_finish_finished (state : ContextState) (step : Nat → Work Error Server Unit)
    (finished : scope.context.state ≠ .active) :
    (finish state step : Scoped Server ε Unit).perform scope =
      (.error (.transactionFinished scope.context.state.name), scope) := by
  simp [finish, requireActive, Work.perform_bind, finished]

/-- Finishing a context takes the last step on its connection and closes it. -/
theorem perform_finish (state : ContextState) (step : Nat → Work Error Server Unit)
    (holding : scope.Holding id) :
    (finish state step : Scoped Server ε Unit).perform scope =
      (((step id).perform scope.store).1,
        { scope with
          context := { scope.context with state := state }
          store := ((step id).perform scope.store).2.close id }) := by
  obtain ⟨⟨store, surroundings⟩, ⟨descriptor, connection, owned, held⟩⟩ := scope
  obtain ⟨rfl, rfl, rfl⟩ := holding
  simp only [finish, requireActive, Work.perform_bind, Work.perform_get, Work.perform_modify,
    Scope.onStore]
  cases stepped : ((step connection).perform store).1 <;>
    simp [Work.perform_bind, Server.perform_close, stepped]

end Context

end RowPayload
