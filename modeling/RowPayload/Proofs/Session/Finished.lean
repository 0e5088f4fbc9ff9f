import RowPayload.Proofs.Lifecycle.Unmapped
import RowPayload.Proofs.Sample
import RowPayload.Proofs.Session.Closing

/-!
# Finished contexts

A context is finished by committing or by rolling back, whatever that reports. From then on its
state stays, and no call reaches the database any more: neither the connection nor the tables nor
the counters are touched, up to and including the end of the context itself.

A finished context answers how it ended. There is one exception: the statement that inserts a row
is written before the state is looked at, so a row that sets an unmapped property is refused for
that property.
-/

namespace RowPayload

open Engine

variable {ε : Type}

namespace Context

/-- A way to finish a context. -/
inductive Finishing where
  | commit
  | rollback

namespace Finishing

/-- Finish a context. -/
def act : Finishing → Scoped Server ε Unit
  | .commit => Context.commit
  | .rollback => Context.rollback

/-- The state in which a context ends. -/
def state : Finishing → ContextState
  | .commit => .committed
  | .rollback => .rolledBack

/-- The last step on an owned connection. -/
def step : Finishing → Nat → Work Error Server Unit
  | .commit => Backend.commit
  | .rollback => Backend.rollback

/-- A context that ends is not in progress. -/
theorem state_ne_active (finishing : Finishing) : finishing.state ≠ .active := by
  cases finishing <;> decide

/-- To commit and to roll back differ in the state and in the last step. -/
theorem act_eq (finishing : Finishing) :
    (finishing.act : Scoped Server ε Unit) = finish finishing.state finishing.step := by
  cases finishing <;> rfl

end Finishing

/-- A call to a context. With the connection it is asked for, a caller may do anything. -/
inductive Call (ε : Type) where
  | connection (work : Nat → Work Error Server Unit)
  | execute (command : Command)
  | query (command : Command)
  | createRow (row : NewRow ε)
  | finish (finishing : Finishing)

namespace Call

/-- Make a call; what it answers if it is not refused is of no interest. -/
def perform : Call ε → Scoped Server ε Unit
  | .connection work => onConnection work
  | .execute command => do let _ ← Context.execute command
  | .query command => do let _ ← Context.query command
  | .createRow row => do let _ ← Context.createRow row
  | .finish finishing => finishing.act

/-- Make calls one after another: what they answer, and the scope after them. -/
def performAll (scope : Scope Server ε) : List (Call ε) → List (Except Error Unit) × Scope Server ε
  | [] => ([], scope)
  | call :: rest =>
    let (answer, after) := call.perform.perform scope
    let (answers, last) := performAll after rest
    (answer :: answers, last)

/-- What a finished context answers a call: how it ended, unless the call is to insert a row with
an unmapped property. -/
def refusal (context : Context) : Call ε → Error
  | .connection _ | .execute _ | .query _ | .finish _ => .transactionFinished context.state.name
  | .createRow row =>
    match row.unmapped? context.descriptor with
    | some property => .unmappedProperty property context.descriptor.table
    | none => .transactionFinished context.state.name

end Call

end Context

/-- A server reads as it did: its tables, its counters, every connection and every handle. -/
structure Engine.Server.ReadsAs (before after : Server) : Prop where
  catalog : after.catalog = before.catalog
  counters : after.counters = before.counters
  connection : ∀ id, after.connection id = before.connection id
  handles : after.handles = before.handles

/-- Forgetting a closed connection cannot be told. -/
theorem Engine.Server.readsAs_release {server : Server} {id : Nat}
    (closed : server.connection id = .closed) : server.ReadsAs (server.release id) where
  catalog := rfl
  counters := rfl
  connection := by
    intro other
    rw [connection_release]
    split
    · rename_i same
      rw [same, closed]
    · rfl
  handles := rfl

namespace Context

variable {scope : Scope Server ε}

/-- **Finishing a context ends it**, whatever is reported: the state says how, an owned connection
is closed, and a borrowed one is left alone. -/
theorem Finishing.ends (finishing : Finishing) (active : scope.context.state = .active) :
    (finishing.act.perform scope).2.context = { scope.context with state := finishing.state } ∧
      (scope.context.owned = true →
        (finishing.act.perform scope).2.store.connection scope.context.connection = .closed) ∧
      (scope.context.owned = false → (finishing.act.perform scope).2.store = scope.store) := by
  rw [act_eq]
  cases owned : scope.context.owned with
  | true =>
    rw [perform_finish finishing.state finishing.step ⟨owned, rfl, active⟩]
    exact ⟨rfl, fun _ => by rw [Server.connection_close, if_pos rfl], nofun⟩
  | false =>
    rw [perform_finish_borrowed owned active]
    exact ⟨rfl, nofun, fun _ => rfl⟩

/-- A row to be inserted by a finished context is refused, for an unmapped property first. -/
theorem createRow_finished (row : NewRow ε) (finished : scope.context.state ≠ .active) :
    ((createRow row : Scoped Server ε Nat).perform scope).1 =
        .error ((Call.createRow row).refusal scope.context) ∧
      scope.AtRest ((createRow row : Scoped Server ε Nat).perform scope).2 := by
  have performed : (createRow row : Scoped Server ε Nat).perform scope =
      ((Scope.onSurroundings (Lifecycle.createNew scope.context.descriptor row) >>= execute :
        Scoped Server ε Nat)).perform scope := by
    rw [createRow, Work.perform_bind]
    rfl
  rw [performed, Work.perform_bind, Scope.onSurroundings, Work.perform_onPart]
  have unmapped := @Lifecycle.createNew_unmapped ε scope.context.descriptor row
  have mapped := @Lifecycle.createNew_mapped ε scope.context.descriptor row
  generalize Lifecycle.createNew scope.context.descriptor row = statement at unmapped mapped
  cases first : row.unmapped? scope.context.descriptor with
  | some property =>
    rw [unmapped first]
    exact ⟨by simp [Call.refusal, first], rfl, rfl⟩
  | none =>
    -- The statement is written, and only then refused.
    obtain ⟨command, written⟩ := @mapped scope.surroundings first
    rw [written]
    generalize (statement.perform scope.surroundings).2 = changed
    have refused : (execute command : Scoped Server ε Nat).perform
        { scope with surroundings := changed } =
          (.error (.transactionFinished scope.context.state.name),
            { scope with surroundings := changed }) :=
      perform_onConnection_finished _ finished
    simp only [refused]
    exact ⟨by simp [Call.refusal, first], rfl, rfl⟩

/-- **A finished context refuses a call and is left at rest.** -/
theorem Call.perform_finished (call : Call ε) (finished : scope.context.state ≠ .active) :
    (call.perform.perform scope).1 = .error (call.refusal scope.context) ∧
      scope.AtRest (call.perform.perform scope).2 := by
  have discarded {α : Type} (work : Nat → Work Error Server α) :
      ((do let _ ← onConnection work : Scoped Server ε Unit)).perform scope =
        (.error (.transactionFinished scope.context.state.name), scope) := by
    rw [Work.perform_bind, perform_onConnection_finished work finished]
  cases call with
  | connection work =>
    rw [perform, perform_onConnection_finished work finished]
    exact ⟨rfl, rfl, rfl⟩
  | execute command =>
    rw [perform, Context.execute, discarded]
    exact ⟨rfl, rfl, rfl⟩
  | query command =>
    rw [perform, Context.query, discarded]
    exact ⟨rfl, rfl, rfl⟩
  | createRow row =>
    obtain ⟨refused, rest⟩ := createRow_finished row finished
    rw [perform, Work.perform_bind]
    generalize (Context.createRow row : Scoped Server ε Nat).perform scope = made at refused rest ⊢
    obtain ⟨answer, after⟩ := made
    cases refused
    exact ⟨rfl, rest⟩
  | finish finishing =>
    rw [perform, Finishing.act_eq, perform_finish_finished _ _ finished]
    exact ⟨rfl, rfl, rfl⟩

/-- A finished context refuses all calls, and is left at rest by them together. -/
theorem Call.performAll_finished (calls : List (Call ε))
    (finished : scope.context.state ≠ .active) :
    (performAll scope calls).1 = calls.map (fun call => .error (call.refusal scope.context)) ∧
      scope.AtRest (performAll scope calls).2 := by
  induction calls generalizing scope with
  | nil => exact ⟨rfl, rfl, rfl⟩
  | cons call rest inductionHypothesis =>
    obtain ⟨refused, atRest⟩ := call.perform_finished finished
    have still : (call.perform.perform scope).2.context.state ≠ .active := by
      rwa [atRest.context]
    obtain ⟨others, later⟩ := inductionHypothesis still
    refine ⟨?_, later.context.trans atRest.context, later.store.trans atRest.store⟩
    rw [atRest.context] at others
    rw [List.map_cons, ← refused, ← others]
    rfl

/-- **A finished context is inert but for what it says of unmapped properties.** Take a context in
progress, owned or borrowed, and commit it or roll it back, whatever that reports. It is then
committed or rolled back, its connection is closed if it is its own, and nothing else was touched
if it is not. Every later call, in every order and with every argument, is refused: with how the
context ended, or, where a row sets an unmapped property, with the first such property. The calls
leave the context and the database as they are, and when the context is given up after them the
tables, the counters, the connections and the handles read the same. -/
theorem finished_context_stays_finished (scope : Scope Server ε)
    (active : scope.context.state = .active) (finishing : Finishing) (calls : List (Call ε)) :
    let finished := (finishing.act.perform scope).2
    let later := Call.performAll finished calls
    finished.context = { scope.context with state := finishing.state } ∧
      (scope.context.owned = true →
        finished.store.connection scope.context.connection = .closed) ∧
      (scope.context.owned = false → finished.store = scope.store) ∧
      later.1 = calls.map (fun call => .error (call.refusal finished.context)) ∧
      finished.AtRest later.2 ∧ finished.store.ReadsAs later.2.leave.store := by
  intro finished later
  obtain ⟨context, owned, borrowed⟩ := finishing.ends active
  have ended : finished.context.state ≠ .active := by
    rw [context]
    exact finishing.state_ne_active
  obtain ⟨refused, atRest⟩ := Call.performAll_finished calls ended
  refine ⟨context, owned, borrowed, refused, atRest, ?_⟩
  rw [← atRest.store]
  cases held : scope.context.owned with
  | true =>
    have left : later.2.leave.store = later.2.store.release scope.context.connection := by
      refine Scope.leave_finished ?_ ?_ ?_
      · rw [atRest.context, context, held]
      · rw [atRest.context, context]
      · rwa [atRest.context]
    rw [left]
    refine Server.readsAs_release ?_
    rw [atRest.store, owned held]
  | false =>
    have kept : later.2.context.owned = false := by
      rw [atRest.context, context, held]
    rw [Scope.leave_borrowed kept]
    exact ⟨rfl, rfl, fun _ => rfl, rfl⟩

end Context

namespace Sample

/-- A context with its own connection, in a transaction whose commit is going to be refused. -/
def doomed : Scope Server Unit :=
  ⟨⟨(connected.beginTransaction 0).2.refuseNextCommit, ()⟩, ⟨descriptor, 0, true, .active⟩⟩

/-- Calls to a context that is finished: a recording is inserted, the commit is tried again, the
transaction is rolled back on the connection itself and through the context, and a recording with a
size is inserted. -/
def lateCalls : List (Context.Call Unit) :=
  [.createRow recording, .finish .commit, .connection fun id => Backend.rollback id,
    .finish .rollback, .createRow sized]

end Sample

/-- A context whose commit is refused is committed all the same, and answers so, but for a recording
with a size. -/
theorem finished_context_stays_finished_doomed :
    Sample.doomed.context.state = .active ∧
      ((Context.Finishing.commit.act : Scoped Server Unit Unit).perform Sample.doomed).1 =
        .error (.ofEngine (.injected "commit")) ∧
      let finished := ((Context.Finishing.commit.act : Scoped Server Unit Unit).perform
        Sample.doomed).2
      let later := Context.Call.performAll finished Sample.lateCalls
      finished.context.state = .committed ∧ finished.store.connection 0 = .closed ∧
        later.1 = List.replicate 4 (.error (.transactionFinished "committed")) ++
          [.error (.unmappedProperty "Size" "Recordings")] ∧
        finished.AtRest later.2 ∧ finished.store.ReadsAs later.2.leave.store := by
  obtain ⟨context, closed, -, refused, atRest, read⟩ :=
    Context.finished_context_stays_finished Sample.doomed rfl .commit Sample.lateCalls
  refine ⟨rfl, rfl, by rw [context]; rfl, closed rfl, ?_, atRest, read⟩
  rw [refused, context]
  rfl

/-- A finished context does not always say that it is finished: a recording with a size is refused
for its size. -/
theorem finished_context_reports_size :
    let finished := ((Context.Finishing.rollback.act : Scoped Server Unit Unit).perform
      Sample.doomed).2
    finished.context.state = .rolledBack ∧
      ((Context.createRow Sample.sized : Scoped Server Unit Nat).perform finished).1 =
        .error (.unmappedProperty "Size" "Recordings") ∧
      ((Context.createRow Sample.sized : Scoped Server Unit Nat).perform finished).1 ≠
        .error (.transactionFinished finished.context.state.name) := by
  have answered : ((Context.createRow Sample.sized : Scoped Server Unit Nat).perform
      ((Context.Finishing.rollback.act : Scoped Server Unit Unit).perform Sample.doomed).2).1 =
        .error (.unmappedProperty "Size" "Recordings") := rfl
  refine ⟨rfl, answered, ?_⟩
  rw [answered]
  nofun

end RowPayload
