/-!
# Results that may be faults

Steps that may fail and have come to a result have each come to a result. A list that is
mapped by such steps is mapped element by element. A fold by such steps gets past each element,
or fails as the first one does that it does not get past.
-/

namespace RowPayload.Checked

variable {φ α β : Type}

/-- A step that has come to some value has come to that one. -/
theorem eq_ok_of_toOption {result : Except φ α} {value : α}
    (found : result.toOption = some value) : result = .ok value := by
  cases result with
  | error fault => cases found
  | ok answer =>
    cases found
    rfl

/-- Two steps that have come to a result: the first one has, and the second one from there. -/
theorem bind_ok {first : Except φ α} {next : α → Except φ β} {result : β}
    (done : first >>= next = .ok result) :
    ∃ value, first = .ok value ∧ next value = .ok result := by
  cases first with
  | error fault => cases done
  | ok value => exact ⟨value, rfl, done⟩

/-- A step whose result is converted has come to one that is converted. -/
theorem map_ok {first : Except φ α} {convert : α → β} {result : β}
    (done : first.map convert = .ok result) : ∃ value, first = .ok value ∧ convert value = result := by
  cases first with
  | error fault => cases done
  | ok value => exact ⟨value, rfl, Except.ok.inj done⟩

/-- If every element is mapped without a fault, the list is. -/
theorem mapM_ok {check : α → Except φ β} {value : α → β} {elements : List α}
    (checked : ∀ element ∈ elements, check element = .ok (value element)) :
    elements.mapM check = .ok (elements.map value) := by
  induction elements with
  | nil => rfl
  | cons first rest inductionHypothesis =>
    have head : check first = .ok (value first) := checked first (by simp)
    have tail := inductionHypothesis fun element member => checked element (by simp [member])
    rw [List.mapM_cons, head, tail]
    rfl

/-- A list that is mapped without a fault has its first element mapped, and the others. -/
theorem mapM_cons_ok {check : α → Except φ β} {first : α} {rest : List α} {values : List β}
    (mapped : (first :: rest).mapM check = .ok values) :
    ∃ value others, check first = .ok value ∧ rest.mapM check = .ok others ∧
      values = value :: others := by
  rw [List.mapM_cons] at mapped
  obtain ⟨value, head, mapped⟩ := bind_ok mapped
  obtain ⟨others, tail, mapped⟩ := bind_ok mapped
  exact ⟨value, others, head, tail, (Except.ok.inj mapped).symm⟩

/-- A list that is mapped without a fault has each of its elements mapped to the value at its
place, and no further values. -/
theorem mapM_getElem? {check : α → Except φ β} {elements : List α} {values : List β}
    (mapped : elements.mapM check = .ok values) (place : Nat) :
    values[place]?.map .ok = elements[place]?.map check := by
  induction elements generalizing values place with
  | nil =>
    cases mapped
    rfl
  | cons first rest inductionHypothesis =>
    obtain ⟨value, others, head, tail, rfl⟩ := mapM_cons_ok mapped
    cases place with
    | zero => simp [head]
    | succ place => simpa using inductionHypothesis tail place

/-- If a list is mapped without a fault to values that tell their elements, the values tell
the list. -/
theorem map_of_mapM {check : α → Except φ β} {element : β → α} {elements : List α}
    {values : List β} (tells : ∀ source value, check source = .ok value → element value = source)
    (mapped : elements.mapM check = .ok values) : values.map element = elements := by
  induction elements generalizing values with
  | nil =>
    cases mapped
    rfl
  | cons first rest inductionHypothesis =>
    obtain ⟨value, others, head, tail, rfl⟩ := mapM_cons_ok mapped
    rw [List.map_cons, tells first value head, inductionHypothesis tail]

/-- What every step keeps that a fold takes is kept by the fold. -/
theorem foldlM_keeps (property : β → Prop) {step : β → α → Except φ β} {elements : List α}
    {start result : β} (done : elements.foldlM step start = .ok result)
    (kept : ∀ element ∈ elements, ∀ before after, step before element = .ok after →
      property before → property after) (holds : property start) : property result := by
  induction elements generalizing start with
  | nil =>
    cases done
    exact holds
  | cons first rest inductionHypothesis =>
    rw [List.foldlM_cons] at done
    obtain ⟨next, stepped, done⟩ := bind_ok done
    exact inductionHypothesis done (fun element member => kept element (List.mem_cons_of_mem _ member))
      (kept first List.mem_cons_self start next stepped holds)

/-- A fold that has come to a result has come past each of its elements. -/
theorem foldlM_ok_at {step : β → α → Except φ β} {elements : List α} {start result : β}
    (done : elements.foldlM step start = .ok result) {place : Nat} {element : α}
    (there : elements[place]? = some element) :
    ∃ before after, (elements.take place).foldlM step start = .ok before ∧
      step before element = .ok after ∧ (elements.drop (place + 1)).foldlM step after = .ok result := by
  induction elements generalizing start place with
  | nil => simp at there
  | cons first rest inductionHypothesis =>
    rw [List.foldlM_cons] at done
    obtain ⟨next, taken, others⟩ := bind_ok done
    cases place with
    | zero =>
      obtain rfl : first = element := by simpa using there
      exact ⟨start, next, rfl, taken, others⟩
    | succ place =>
      obtain ⟨before, after, reached, passed, left⟩ :=
        inductionHypothesis others (by simpa using there)
      refine ⟨before, after, ?_, passed, left⟩
      rw [List.take_succ_cons, List.foldlM_cons, taken]
      exact reached

/-- A fold fails as the first element does that it does not get past. -/
theorem foldlM_error_iff {step : β → α → Except φ β} {elements : List α} {start : β} {fault : φ} :
    elements.foldlM step start = .error fault ↔ ∃ place element before,
      elements[place]? = some element ∧ (elements.take place).foldlM step start = .ok before ∧
        step before element = .error fault := by
  induction elements generalizing start with
  | nil => simp [pure, Except.pure]
  | cons first rest inductionHypothesis =>
    rw [List.foldlM_cons]
    cases taken : step start first with
    | error own =>
      constructor
      · rintro ⟨⟩
        exact ⟨0, first, start, rfl, rfl, taken⟩
      · rintro ⟨place, element, before, there, reached, failed⟩
        cases place with
        | zero =>
          cases there
          cases reached
          rw [taken] at failed
          exact failed
        | succ place =>
          rw [List.take_succ_cons, List.foldlM_cons, taken] at reached
          cases reached
    | ok next =>
      refine Iff.trans inductionHypothesis ⟨?_, ?_⟩
      · rintro ⟨place, element, before, there, reached, failed⟩
        refine ⟨place + 1, element, before, by simpa using there, ?_, failed⟩
        rw [List.take_succ_cons, List.foldlM_cons, taken]
        exact reached
      · rintro ⟨place, element, before, there, reached, failed⟩
        cases place with
        | zero =>
          cases there
          cases reached
          rw [taken] at failed
          cases failed
        | succ place =>
          rw [List.take_succ_cons, List.foldlM_cons, taken] at reached
          exact ⟨place, element, before, by simpa using there, reached, failed⟩

end RowPayload.Checked
