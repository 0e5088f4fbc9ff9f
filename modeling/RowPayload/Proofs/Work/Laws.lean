import RowPayload.Work

/-!
# Laws of work

What the pieces that work is made of do to a state, one equation each, and the two
judgements that proofs about work are written in. `Leads before work after` says what
holds of the answer and of the state afterwards; `Keeps` is the special case of an
invariant. Both compose along the way work is put together, so no proof opens a
sequence of steps twice.
-/

namespace RowPayload.Work

variable {φ ψ σ τ α β : Type}

/-! ## What each piece does -/

@[simp] theorem perform_pure (answer : α) (state : σ) :
    (pure answer : Work φ σ α).perform state = (.ok answer, state) := rfl

@[simp] theorem perform_throw (fault : φ) (state : σ) :
    (throw fault : Work φ σ α).perform state = (.error fault, state) := rfl

/-- A sequence goes on with the answer of its first part, and ends with its failure. -/
theorem perform_bind (work : Work φ σ α) (next : α → Work φ σ β) (state : σ) :
    (work >>= next).perform state =
      match work.perform state with
      | (.ok answer, after) => (next answer).perform after
      | (.error fault, after) => (.error fault, after) := by
  show (work.run >>= ExceptT.bindCont next : StateM σ _).run state = _
  simp only [StateT.run_bind, perform]
  cases answered : work.run.run state with
  | mk result after =>
      cases result <;> rfl

/-- A sequence that answers has gone through both of its parts. -/
theorem perform_bind_ok {work : Work φ σ α} {next : α → Work φ σ β} {state after : σ} {answer : β}
    (done : (work >>= next).perform state = (.ok answer, after)) :
    ∃ value middle, work.perform state = (.ok value, middle) ∧
      (next value).perform middle = (.ok answer, after) := by
  rw [perform_bind] at done
  cases first : work.perform state with
  | mk result middle =>
    rw [first] at done
    cases result with
    | error fault => simp at done
    | ok value => exact ⟨value, middle, rfl, done⟩

/-- A sequence fails with the failure of its first part. -/
theorem perform_bind_error {work : Work φ σ α} {state : σ} {fault : φ}
    (failed : (work.perform state).1 = .error fault) (next : α → Work φ σ β) :
    ((work >>= next).perform state).1 = .error fault := by
  rw [perform_bind]
  cases answered : work.perform state with
  | mk result after =>
    rw [answered] at failed
    cases failed
    rfl

/-- Converting an answer leaves the state as it is. -/
@[simp] theorem perform_map (convert : α → β) (work : Work φ σ α) (state : σ) :
    (convert <$> work).perform state =
      ((work.perform state).1.map convert, (work.perform state).2) := by
  rw [map_eq_pure_bind, perform_bind]
  cases answered : work.perform state with
  | mk result after =>
      cases result <;> rfl

@[simp] theorem perform_get (state : σ) :
    (get : Work φ σ σ).perform state = (.ok state, state) := rfl

@[simp] theorem perform_modify (change : σ → σ) (state : σ) :
    (modify change : Work φ σ Unit).perform state = (.ok (), change state) := rfl

@[simp] theorem perform_ofFunction (make : σ → Except φ α × σ) (state : σ) :
    (ofFunction make).perform state = make state := rfl

@[simp] theorem perform_ofResult (result : Except φ α) (state : σ) :
    (ofResult result : Work φ σ α).perform state = (result, state) := rfl

@[simp] theorem perform_lift (result : Except φ α) (state : σ) :
    (liftM result : Work φ σ α).perform state = (result, state) := rfl

@[simp] theorem perform_attempt (work : Work φ σ α) (state : σ) :
    (work.attempt : Work ψ σ (Except φ α)).perform state =
      (.ok (work.perform state).1, (work.perform state).2) := rfl

@[simp] theorem perform_onPart (part : τ → σ) (replace : τ → σ → τ) (work : Work φ σ α)
    (whole : τ) :
    (onPart part replace work).perform whole =
      ((work.perform (part whole)).1, replace whole (work.perform (part whole)).2) := rfl

/-! ## Answers and states afterwards -/

/-- From a state with `before`, work leads to an answer and a state with `after`. -/
def Leads (before : σ → Prop) (work : Work φ σ α) (after : Except φ α → σ → Prop) : Prop :=
  ∀ state, before state → after (work.perform state).1 (work.perform state).2

/-- Work keeps an invariant, whatever it answers. -/
def Keeps (invariant : σ → Prop) (work : Work φ σ α) : Prop :=
  Leads invariant work fun _ => invariant

variable {before : σ → Prop} {invariant : σ → Prop} {work : Work φ σ α}

/-- A sequence leads where its second part does from where its first part answers; a
failure of the first part is what the sequence fails with. -/
theorem Leads.bind {next : α → Work φ σ β} {middle : Except φ α → σ → Prop}
    {after : Except φ β → σ → Prop} (first : Leads before work middle)
    (failed : ∀ fault state, middle (.error fault) state → after (.error fault) state)
    (second : ∀ answer, Leads (middle (.ok answer)) (next answer) after) :
    Leads before (work >>= next) after := by
  intro state holds
  have reached := first state holds
  rw [perform_bind]
  cases answered : work.perform state with
  | mk result middleState =>
      rw [answered] at reached
      cases result with
      | error fault => exact failed fault middleState reached
      | ok answer => exact second answer middleState reached

/-- A sequence keeps what both of its parts keep. -/
theorem Keeps.bind {next : α → Work φ σ β} (first : Keeps invariant work)
    (second : ∀ answer, Keeps invariant (next answer)) : Keeps invariant (work >>= next) :=
  Leads.bind first (fun _ _ holds => holds) second

/-- Answering changes nothing. -/
theorem Keeps.pure (answer : α) : Keeps invariant (Pure.pure answer : Work φ σ α) :=
  fun _ holds => holds

/-- Failing changes nothing. -/
theorem Keeps.throw (fault : φ) : Keeps invariant (MonadExcept.throw fault : Work φ σ α) :=
  fun _ holds => holds

/-- Looking at the state changes nothing. -/
theorem Keeps.get : Keeps (φ := φ) invariant (MonadState.get : Work φ σ σ) :=
  fun _ holds => holds

/-- A result that is there already changes nothing. -/
theorem Keeps.lift (result : Except φ α) : Keeps invariant (liftM result : Work φ σ α) :=
  fun _ holds => holds

/-- A change keeps what it keeps of every state. -/
theorem Keeps.modify {change : σ → σ} (kept : ∀ state, invariant state → invariant (change state)) :
    Keeps (φ := φ) invariant (modify change) :=
  kept

/-- Whether failures are caught makes no difference to the state. -/
theorem Keeps.attempt (keeps : Keeps invariant work) :
    Keeps (φ := ψ) invariant work.attempt :=
  keeps

/-- Work that may go one of two ways keeps what both ways keep. -/
theorem Keeps.ite {condition : Prop} [Decidable condition] {other : Work φ σ α}
    (first : condition → Keeps invariant work) (second : ¬ condition → Keeps invariant other) :
    Keeps invariant (if condition then work else other) := by
  split
  · exact first ‹_›
  · exact second ‹_›

end RowPayload.Work
