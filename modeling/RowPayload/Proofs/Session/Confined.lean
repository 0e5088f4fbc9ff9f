import RowPayload.Proofs.Work.Laws
import RowPayload.Session.Context

/-!
# Actions made of a context's own operations

A close hook is given the context and nothing else. `Confined` says of an action that
it was put together from what a context offers: executing, querying, inserting a row,
committing, rolling back, looking at the context, and computing with the surroundings.
Whatever each of these keeps, every confined action keeps.
-/

namespace RowPayload.Context

variable {σ ε : Type} [Backend σ]

/-- Actions that use a context's own operations only. -/
inductive Confined : {α : Type} → Scoped σ ε α → Prop where
  | answer {α : Type} (value : α) : Confined (pure value)
  | fail {α : Type} (fault : Error) : Confined (throw fault : Scoped σ ε α)
  | sequence {α β : Type} {first : Scoped σ ε α} {second : α → Scoped σ ε β} :
      Confined first → (∀ value, Confined (second value)) → Confined (first >>= second)
  | attempt {α : Type} {action : Scoped σ ε α} :
      Confined action → Confined (action.attempt : Scoped σ ε (Except Error α))
  | look {α : Type} (view : Context → α) :
      Confined (do return view (← get).context)
  | surroundings {α : Type} (work : Work Error ε α) : Confined (Scope.onSurroundings work)
  | execute (command : Command) : Confined (Context.execute command)
  | query (command : Command) : Confined (Context.query command)
  | createRow (row : NewRow ε) : Confined (Context.createRow row)
  | commit : Confined Context.commit
  | rollback : Confined Context.rollback

/-- What a context's operations keep, confined actions keep, if it does not depend on
the surroundings. Inserting a row executes a statement, so it needs no case of its own. -/
theorem Confined.keeps {α : Type} {action : Scoped σ ε α} {invariant : Scope σ ε → Prop}
    (confined : Confined action)
    (surroundings : ∀ scope changed, invariant scope →
      invariant { scope with surroundings := changed })
    (execute : ∀ command, Work.Keeps invariant (Context.execute command))
    (query : ∀ command, Work.Keeps invariant (Context.query command))
    (commit : Work.Keeps invariant Context.commit)
    (rollback : Work.Keeps invariant Context.rollback) : Work.Keeps invariant action := by
  induction confined with
  | answer value => exact .pure value
  | fail fault => exact .throw fault
  | sequence _ _ firstKeeps secondKeeps => exact .bind firstKeeps secondKeeps
  | attempt _ keeps => exact keeps.attempt
  | look view => exact .bind .get fun _ => .pure _
  | surroundings work => exact fun scope holds => surroundings scope _ holds
  | execute command => exact execute command
  | query command => exact query command
  | createRow row =>
    refine .bind .get fun scope => .bind ?_ fun command => execute command
    exact fun scope holds => surroundings scope _ holds
  | commit => exact commit
  | rollback => exact rollback

end RowPayload.Context
