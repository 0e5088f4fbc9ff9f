/-!
# Work on a state

Work reads and changes a state and either answers or fails. A change made before a
failure remains.
-/

namespace RowPayload

/-- Work on a state of type `σ` that may fail with a `φ`. -/
abbrev Work (φ σ : Type) := ExceptT φ (StateM σ)

namespace Work

variable {φ ψ σ τ α : Type}

/-- Do work on a state: its result and the state afterwards. -/
def perform (work : Work φ σ α) (state : σ) : Except φ α × σ := work.run.run state

/-- Work given as what it makes of a state. -/
def ofFunction (make : σ → Except φ α × σ) : Work φ σ α := ExceptT.mk (make : StateM σ _)

/-- Do work and answer its result, whether it answers or fails. -/
def attempt (work : Work φ σ α) : Work ψ σ (Except φ α) :=
  ofFunction fun state =>
    let (result, after) := work.perform state
    (.ok result, after)

/-- Do work on a part of a state. -/
def onPart (part : τ → σ) (replace : τ → σ → τ) (work : Work φ σ α) : Work φ τ α :=
  ofFunction fun whole =>
    let (result, after) := work.perform (part whole)
    (result, replace whole after)

/-- Answer or fail as a result says. -/
def ofResult (result : Except φ α) : Work φ σ α := ofFunction fun state => (result, state)

end Work

end RowPayload
