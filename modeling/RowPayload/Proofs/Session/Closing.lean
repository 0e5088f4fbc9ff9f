import RowPayload.Proofs.Session.Owned

/-!
# Closing a stream

Closing a stream takes three steps: its handle is closed, the hook is run, and the
transaction is committed if it is still in progress. Each step is a definition of its own
with what it reports and the scope after it, and closing is the three of them one after
another, whatever they report. Aborting closes the handle too and then rolls back.
-/

namespace RowPayload

open Engine

variable {ε ρ : Type} {id : Nat}

namespace Scope

/-- The context and the database are as they were; only the surroundings may differ. -/
structure AtRest (before after : Scope Server ε) : Prop where
  context : after.context = before.context
  store : after.store = before.store

variable {scope : Scope Server ε}

/-- Leaving a context that is committed or rolled back releases its closed connection. -/
theorem leave_finished (owned : scope.context.owned = true)
    (connection : scope.context.connection = id) (finished : scope.context.state ≠ .active) :
    scope.leave.store = scope.store.release id := by
  have inactive : scope.context.isActive = false := by
    simpa [Context.isActive] using finished
  simp only [leave, Context.release, owned, inactive, connection]
  rfl

/-- A context that is finished and then left has taken the last step on its connection,
which is closed and released. -/
theorem leave_finish {state : ContextState} (ended : state ≠ .active)
    (step : Nat → Work Error Server Unit) (holding : scope.Holding id) :
    ((Context.finish state step : Scoped Server ε Unit).perform scope).2.leave.store =
      (((step id).perform scope.store).2.close id).release id := by
  rw [Context.perform_finish state step holding]
  exact leave_finished holding.owned holding.connection ended

end Scope

/-! ## Borrowed connections -/

/-- A context that borrows a connection. -/
structure Context.LentOn (id : Nat) (context : Context) : Prop where
  borrowed : context.owned = false
  connection : context.connection = id

/-- Finishing a context that borrows its connection changes its state only. -/
theorem Context.perform_finish_borrowed {scope : Scope Server ε}
    (borrowed : scope.context.owned = false) (active : scope.context.state = .active)
    (state : ContextState) (step : Nat → Work Error Server Unit) :
    (finish state step : Scoped Server ε Unit).perform scope =
      (.ok (), { scope with context := { scope.context with state := state } }) := by
  simp [finish, requireActive, Work.perform_bind, active, borrowed]

/-- **Finishing a context that borrows its connection finishes nothing else.** -/
theorem Context.finish_borrowed {scope : Scope Server ε} (borrowed : scope.context.owned = false)
    (state : ContextState) (step : Nat → Work Error Server Unit) :
    ((finish state step : Scoped Server ε Unit).perform scope).2.toWorld = scope.toWorld ∧
      ((finish state step : Scoped Server ε Unit).perform scope).2.context.LentOn
        scope.context.connection := by
  by_cases active : scope.context.state = .active
  · rw [perform_finish_borrowed borrowed active]
    exact ⟨rfl, borrowed, rfl⟩
  · rw [perform_finish_finished state step active]
    exact ⟨rfl, borrowed, rfl⟩

namespace Scope

variable {scope : Scope Server ε}

/-- Leaving a context that borrows its connection changes nothing. -/
theorem leave_borrowed (borrowed : scope.context.owned = false) : scope.leave = scope.toWorld := by
  simp [leave, Context.release, borrowed]

/-- Neither does finishing it first. -/
theorem leave_finish_borrowed (borrowed : scope.context.owned = false) (state : ContextState)
    (step : Nat → Work Error Server Unit) :
    ((Context.finish state step : Scoped Server ε Unit).perform scope).2.leave = scope.toWorld := by
  obtain ⟨world, lentOn⟩ := Context.finish_borrowed borrowed state step
  rw [leave_borrowed lentOn.borrowed, world]

end Scope

namespace Stream

open Context

/-- Settling commits a transaction in progress. -/
theorem perform_settle (scope : Scope Server ε) :
    (settle : Scoped Server ε Unit).perform scope =
      if scope.context.state = .active then
        (Context.commit : Scoped Server ε Unit).perform scope
      else (.ok (), scope) := by
  unfold settle
  simp only [Work.perform_bind, Work.perform_get, isActive, beq_iff_eq]
  split <;> rfl

/-- Withdrawing rolls back a transaction in progress. -/
theorem perform_withdraw (scope : Scope Server ε) :
    (withdraw : Scoped Server ε Unit).perform scope =
      if scope.context.state = .active then
        (Context.rollback : Scoped Server ε Unit).perform scope
      else (.ok (), scope) := by
  unfold withdraw
  simp only [Work.perform_bind, Work.perform_get, isActive, beq_iff_eq]
  split <;> rfl

/-- Giving up on opening a stream withdraws, whatever that reports. -/
theorem snd_perform_abandon (scope : Scope Server ε) :
    ((abandon : Scoped Server ε Unit).perform scope).2 =
      ((withdraw : Scoped Server ε Unit).perform scope).2 := by
  unfold abandon withdraw
  simp only [Work.perform_bind, Work.perform_get]
  split <;> rfl

/-- A context that borrows its connection is left as it is, settled or not. -/
theorem leave_settle_borrowed {scope : Scope Server ε} (borrowed : scope.context.owned = false) :
    ((settle : Scoped Server ε Unit).perform scope).2.leave = scope.toWorld := by
  rw [perform_settle]
  split
  · exact Scope.leave_finish_borrowed borrowed .committed Backend.commit
  · exact Scope.leave_borrowed borrowed

/-- A context that borrows its connection is left as it is, withdrawn or not. -/
theorem leave_withdraw_borrowed {scope : Scope Server ε} (borrowed : scope.context.owned = false) :
    ((withdraw : Scoped Server ε Unit).perform scope).2.leave = scope.toWorld := by
  rw [perform_withdraw]
  split
  · exact Scope.leave_finish_borrowed borrowed .rolledBack Backend.rollback
  · exact Scope.leave_borrowed borrowed

/-! ## The steps of closing -/

/-- What the three steps of closing a stream report. -/
structure Closing where
  handle : Except IoFault Unit
  hook : Except Error Unit
  commit : Except Error Unit

/-- The report of a stream that was closed: the commit's failure comes before the hook's,
and that before the handle's. -/
def Closing.verdict (closing : Closing) : Except Error Unit :=
  match closing.commit, closing.hook, closing.handle with
  | .error fault, _, _ => .error fault
  | .ok _, .error fault, _ => .error fault
  | .ok _, .ok _, .error fault => .error (.io fault)
  | .ok _, .ok _, .ok _ => .ok ()

/-- A verdict without a failure comes of a commit without one. -/
theorem Closing.commit_of_verdict {closing : Closing} (succeeded : closing.verdict = .ok ()) :
    closing.commit = .ok () := by
  obtain ⟨handle, hook, commit⟩ := closing
  cases commit with
  | error fault => cases succeeded
  | ok _ => rfl

variable (stream : Stream Server ε ρ) (world : World Server ε)

/-- Closing the handle of a stream: what it reports and the scope after it. -/
def closeHandle : Except IoFault Unit × Scope Server ε :=
  let closed := (Backend.closePayload stream.payload : Work IoFault Server Unit).perform world.store
  (closed.1, ⟨⟨Backend.releasePayload closed.2 stream.payload, world.surroundings⟩, stream.context⟩)

/-- Running the hook of a stream after its handle was closed. -/
def closeHook : Except Error Unit × Scope Server ε :=
  (runHook stream.onClose).perform (stream.closeHandle world).2

/-- Committing the transaction of a stream after its hook was run, if that left it in
progress. -/
def closeCommit : Except Error Unit × Scope Server ε :=
  (settle : Scoped Server ε Unit).perform (stream.closeHook world).2

/-- The reports of the three steps of closing a stream. -/
def closing : Closing :=
  ⟨(stream.closeHandle world).1, (stream.closeHook world).1, (stream.closeCommit world).1⟩

/-- Closing a stream takes the three steps and gives up the context. -/
theorem perform_close :
    stream.close.perform world =
      ((stream.closing world).verdict, (stream.closeCommit world).2.leave) := by
  unfold close closePayload
  simp only [Work.perform_ofFunction, Work.perform_bind, Work.perform_attempt, Work.perform_pure,
    Work.perform_modify, Work.perform_ofResult, Scope.onStore, Work.perform_onPart]
  simp only [closing, Closing.verdict, closeCommit, closeHook, closeHandle]
  generalize (settle : Scoped Server ε Unit).perform _ = committed
  generalize (Work.perform (runHook stream.onClose) _).1 = hooked
  generalize ((Backend.closePayload stream.payload : Work IoFault Server Unit).perform
    world.store).1 = closed
  obtain ⟨committed, scope⟩ := committed
  cases committed <;> cases hooked <;> cases closed <;> rfl

/-- Aborting a stream closes its handle, withdraws and gives up the context. -/
theorem snd_perform_abort :
    (stream.abort.perform world).2 =
      ((withdraw : Scoped Server ε Unit).perform (stream.closeHandle world).2).2.leave := by
  unfold abort closePayload
  simp only [Work.perform_ofFunction, Work.perform_bind, Work.perform_attempt, Work.perform_pure,
    Work.perform_modify, Work.perform_ofResult, Scope.onStore, Work.perform_onPart]
  simp only [closeHandle]
  generalize (withdraw : Scoped Server ε Unit).perform _ = withdrawn
  obtain ⟨withdrawn, scope⟩ := withdrawn
  cases withdrawn <;> rfl

/-! ## What closing publishes -/

variable {stream : Stream Server ε ρ} {world : World Server ε}

/-- Without a hook, closing settles right after the handle was closed. -/
theorem close_unhooked (world : World Server ε) (unhooked : stream.onClose = none) :
    (stream.closing world).commit =
        ((settle : Scoped Server ε Unit).perform (stream.closeHandle world).2).1 ∧
      (stream.close.perform world).2 =
        ((settle : Scoped Server ε Unit).perform (stream.closeHandle world).2).2.leave := by
  have hooked : (stream.closeHook world).2 = (stream.closeHandle world).2 := by
    unfold closeHook
    rw [unhooked]
    rfl
  rw [perform_close, ← hooked]
  exact ⟨rfl, rfl⟩

/-- Without a hook, a session that borrows its connection only closes its handle. -/
theorem close_borrowed (world : World Server ε) (unhooked : stream.onClose = none)
    (borrowed : stream.context.owned = false) :
    (stream.close.perform world).2.store = (stream.closeHandle world).2.store := by
  have kept : (stream.closeHandle world).2.context.owned = false := borrowed
  rw [(close_unhooked world unhooked).2, leave_settle_borrowed kept]

/-- Aborting a session that borrows its connection only closes its handle. -/
theorem abort_borrowed (world : World Server ε) (borrowed : stream.context.owned = false) :
    (stream.abort.perform world).2.store = (stream.closeHandle world).2.store := by
  have kept : (stream.closeHandle world).2.context.owned = false := borrowed
  rw [snd_perform_abort, leave_withdraw_borrowed kept]

/-- A close that reports no failure has committed without one. -/
theorem commit_of_close (closed : (stream.close.perform world).1 = .ok ()) :
    (stream.closing world).commit = .ok () := by
  rw [perform_close] at closed
  exact Closing.commit_of_verdict closed

/-- Without a hook, a close whose commit was not refused publishes what the transaction has
changed, the handle having been closed before. -/
theorem catalog_close {transaction : Transaction}
    (holding : (⟨world, stream.context⟩ : Scope Server ε).Holding id)
    (unhooked : stream.onClose = none) (allowed : (stream.closing world).commit = .ok ())
    (held : (stream.closeHandle world).2.store.connection id = .inTransaction transaction)
    (name : String) :
    (stream.close.perform world).2.store.catalog.get? name =
      (transaction.changed.get? name).or
        ((stream.closeHandle world).2.store.catalog.get? name) := by
  obtain ⟨committed, left⟩ := close_unhooked world unhooked
  have closed : (stream.closeHandle world).2.Holding id :=
    ⟨holding.owned, holding.connection, holding.active⟩
  rw [committed, perform_settle, if_pos closed.active, Context.commit,
    Context.perform_finish .committed Backend.commit closed, Server.perform_commit] at allowed
  rw [left, perform_settle, if_pos closed.active, Context.commit,
    Scope.leave_finish (by simp) Backend.commit closed, Server.perform_commit]
  show (Server.close _ id).catalog.get? name = _
  rw [Server.catalog_close]
  generalize (stream.closeHandle world).2.store = store at held allowed ⊢
  by_cases refused : store.failNextCommit = true
  · rw [Server.commit_eq_of_refused held refused] at allowed
    cases allowed
  · have notRefused : store.failNextCommit = false := by simpa using refused
    rw [Server.commit_eq_of_allowed held notRefused]
    exact Server.get?_publish _ transaction.changed name

end Stream

end RowPayload
