import RowPayload.Proofs.Lifecycle.Unmapped
import RowPayload.Proofs.Sample
import RowPayload.Proofs.Session.Closing

/-!
# Rejected options

Options are looked at in three stages before anything is asked of the database: they have to work
together, their filter has to have a compiled form, and a row that is to be inserted has to set
mapped properties. The first stage that fails is what opening a stream reports. No statement has
then been run, no query and no payload was opened: the transaction is rolled back and the
connection closed, and that is all that happened.
-/

namespace RowPayload

open Engine

variable {ε ρ : Type}

/-- Options are rejected with an error, that of the first stage that fails. -/
inductive Options.Rejected (options : Options Server ε) (descriptor : Descriptor)
    (surroundings : ε) : Error → Prop where
  | invalid {fault : Error} (refused : options.validate = .error fault) :
      Rejected options descriptor surroundings fault
  | filter {fault : Error} (valid : options.validate = .ok ())
      (refused : ((options.filter.compile descriptor).perform surroundings).1 = .error fault) :
      Rejected options descriptor surroundings fault
  | row {clause : Clause} {row : NewRow ε} {property : String}
      (valid : options.validate = .ok ())
      (compiled : ((options.filter.compile descriptor).perform surroundings).1 = .ok clause)
      (creates : options.mode.createsRow = true) (offered : options.newRow = some row)
      (unmapped : row.unmapped? descriptor = some property) :
      Rejected options descriptor surroundings (.unmappedProperty property descriptor.table)

namespace Engine

/-- What a server has counted of statements, of queries, of the rows they inserted and updated, and
of payloads. -/
structure Traffic where
  statements : Nat
  queries : Nat
  inserts : Nat
  updates : Nat
  payloadsOpened : Nat
deriving DecidableEq

/-- The counters of statements, queries and payloads. -/
def Counters.traffic (counters : Counters) : Traffic :=
  ⟨counters.statements, counters.queries, counters.inserts, counters.updates,
    counters.payloadsOpened⟩

namespace Server

/-- A connection was given up and nothing else was done: it is closed, and if its transaction was
in progress that was rolled back, once. -/
structure Withdrawn (id : Nat) (before after : Server) : Prop where
  closed : after.connection id = .closed
  others : ∀ other, other ≠ id → after.connection other = before.connection other
  catalog : after.catalog = before.catalog
  handles : after.handles = before.handles
  traffic : after.counters.traffic = before.counters.traffic
  account : ∀ transaction, before.connection id = .inTransaction transaction →
    after.counters.account = before.counters.account.withRollback.withClosed

variable {server : Server} {id other : Nat}

/-- Rolling back leaves the other connections alone. -/
theorem connection_rollback_of_ne (different : other ≠ id) :
    (server.rollback id).2.connection other = server.connection other := by
  unfold rollback
  cases held : server.connection id with
  | closed => rfl
  | ready => rfl
  | inTransaction transaction =>
    have alive : server.connection id ≠ .closed := by simp [held]
    rw [countRollback, connection_count, connection_setConnection alive, if_neg different]

/-- Rolling back publishes nothing. -/
theorem catalog_rollback (server : Server) (id : Nat) :
    (server.rollback id).2.catalog = server.catalog := by
  unfold rollback
  split <;> rfl

/-- Closing a connection opens and closes no payload and counts no statement. -/
theorem untouched_close (server : Server) (id : Nat) :
    (server.close id).handles = server.handles ∧
      (server.close id).counters.traffic = server.counters.traffic := by
  unfold close
  split <;> exact ⟨rfl, rfl⟩

/-- Rolling back opens and closes no payload and counts no statement. -/
theorem untouched_rollback (server : Server) (id : Nat) :
    (server.rollback id).2.handles = server.handles ∧
      (server.rollback id).2.counters.traffic = server.counters.traffic := by
  unfold rollback
  split <;> exact ⟨rfl, rfl⟩

/-- A connection whose transaction is rolled back, that is closed and then forgotten, is withdrawn,
whatever state it was in. -/
theorem withdrawn_rollback (server : Server) (id : Nat) :
    server.Withdrawn id (((server.rollback id).2.close id).release id) where
  closed := by
    rw [connection_release, if_pos rfl]
  others := by
    intro other different
    rw [connection_release, if_neg different, connection_close, if_neg different,
      connection_rollback_of_ne different]
  catalog := (catalog_close _ id).trans (catalog_rollback server id)
  handles := (untouched_close _ id).1.trans (untouched_rollback server id).1
  traffic := (untouched_close _ id).2.trans (untouched_rollback server id).2
  account := by
    intro transaction held
    have rolledBack : (server.rollback id).2 = (server.setConnection id .ready).countRollback := by
      simp only [Server.rollback, held]
    have ready : (server.rollback id).2.connection id = .ready := by
      rw [rolledBack, countRollback, connection_count, connection_setReady held]
    show ((server.rollback id).2.close id).counters.account = _
    rw [(close_ready ready).2.2, rolledBack]
    rfl

end Server

end Engine

namespace Stream

variable {options : Options Server ε} {scope : Scope Server ε} {fault : Error}

/-- Preparing a row for rejected options fails as they are rejected, with nothing asked of the
database. -/
theorem prepareRow_rejected
    (rejected : options.Rejected scope.context.descriptor scope.surroundings fault) :
    ((prepareRow options : Scoped Server ε Clause).perform scope).1 = .error fault ∧
      scope.AtRest ((prepareRow options : Scoped Server ε Clause).perform scope).2 := by
  cases rejected with
  | invalid refused =>
    simp only [prepareRow, Work.perform_bind, Work.perform_lift, refused]
    exact ⟨trivial, rfl, rfl⟩
  | filter valid refused =>
    simp only [prepareRow, Work.perform_bind, Work.perform_lift, valid, Work.perform_get,
      Scope.onSurroundings, Work.perform_onPart, refused]
    exact ⟨trivial, rfl, rfl⟩
  | @row clause row property valid compiled creates offered unmapped =>
    simp only [prepareRow, Work.perform_bind, Work.perform_lift, valid, Work.perform_get,
      Scope.onSurroundings, Work.perform_onPart, compiled, offered,
      Lifecycle.command_unmapped creates clause unmapped]
    exact ⟨trivial, rfl, rfl⟩

/-- **Rejected options run nothing.** Whatever the state of the server, a stream does not open on a
context that owns its connection if its options are rejected: they cannot work, or their filter
has no compiled form, or a row to be inserted sets an unmapped property, in this order. The error is
that of the first stage that fails. No statement, query, insertion, update or payload is counted,
the tables are as they were, the transaction is rolled back, and the connection is closed. -/
theorem rejected_options_run_nothing (world : World Server ε) (context : Context)
    (schema : Schema ρ) (owned : context.owned = true) (active : context.state = .active)
    (rejected : options.Rejected context.descriptor world.surroundings fault) :
    ((openOn context schema options).perform world).1 = .error fault ∧
      world.store.Withdrawn context.connection
        ((openOn context schema options).perform world).2.store := by
  obtain ⟨failed, atRest⟩ := @prepareRow_rejected ε options ⟨world, context⟩ fault rejected
  have holding : ((prepareRow options : Scoped Server ε Clause).perform ⟨world, context⟩).2.Holding
      context.connection := by
    constructor
    · rw [atRest.context, owned]
    · rw [atRest.context]
    · rw [atRest.context, active]
  rw [openOn, Work.perform_ofFunction, prepare, Work.perform_bind]
  generalize (prepareRow options : Scoped Server ε Clause).perform ⟨world, context⟩ =
    prepared at failed atRest holding ⊢
  obtain ⟨answer, after⟩ := prepared
  cases failed
  refine ⟨rfl, ?_⟩
  show world.store.Withdrawn context.connection (abandon.perform after).2.leave.store
  rw [snd_perform_abandon, perform_withdraw, if_pos holding.active, Context.rollback,
    Scope.leave_finish (by simp) Backend.rollback holding]
  have kept : after.store = world.store := atRest.store
  rw [kept]
  exact Server.withdrawn_rollback world.store context.connection

end Stream

namespace Sample

/-- Inserting a recording with a size if there is no recording with its number. -/
def sizing : Options Server Unit :=
  ⟨.create, .readWrite, seventh, some sized, none⟩

/-- A context with its own connection, in a transaction. -/
def holder : Context := ⟨descriptor, 0, true, .active⟩

end Sample

/-- A recording with a size is not inserted, and nothing is looked for. The transaction is counted
as rolled back. -/
theorem rejected_options_run_nothing_sizing :
    (Sample.holder.owned = true ∧ Sample.holder.state = .active ∧
      Sample.sizing.Rejected Sample.descriptor () (.unmappedProperty "Size" "Recordings")) ∧
    let world : World Server Unit := ⟨(Sample.connected.beginTransaction 0).2, ()⟩
    let opened := (Stream.openOn Sample.holder Sample.schema Sample.sizing).perform world
    opened.1 = .error (.unmappedProperty "Size" "Recordings") ∧
      world.store.Withdrawn 0 opened.2.store ∧
      opened.2.store.counters.account = ⟨1, 0, 1, 1, 1⟩ ∧
      opened.2.store.counters.traffic = ⟨0, 0, 0, 0, 0⟩ := by
  have rejected : Sample.sizing.Rejected Sample.descriptor ()
      (.unmappedProperty "Size" "Recordings") :=
    .row rfl (Checked.eq_ok_of_toOption rfl) rfl rfl rfl
  obtain ⟨failed, withdrawn⟩ := Stream.rejected_options_run_nothing
    ⟨(Sample.connected.beginTransaction 0).2, ()⟩ Sample.holder Sample.schema rfl rfl rejected
  have held : (Sample.connected.beginTransaction 0).2.connection 0 = .inTransaction
      (.start [1, 2, 3] 0 Sample.connected.catalog) := rfl
  exact ⟨⟨rfl, rfl, rejected⟩, failed, withdrawn, withdrawn.account _ held, withdrawn.traffic⟩

end RowPayload
