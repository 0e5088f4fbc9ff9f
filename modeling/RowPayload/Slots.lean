/-!
# Numbered slots

Things that live for a while, such as connections and payload handles, are kept
in slots. A slot's number is handed out once and never again, so a number that
was freed names nothing from then on.
-/

namespace RowPayload

/-- Occupied slots with their numbers, and the number of the next slot. -/
structure Slots (α : Type) where
  next : Nat
  occupied : List (Nat × α)

namespace Slots

variable {α : Type}

/-- No slot is occupied and none has been. -/
def empty : Slots α := ⟨0, []⟩

instance : Inhabited (Slots α) := ⟨empty⟩

/-- What the slot with a number holds. -/
def get? (slots : Slots α) (number : Nat) : Option α := slots.occupied.lookup number

/-- Occupy the next slot. -/
def add (slots : Slots α) (value : α) : Nat × Slots α :=
  (slots.next, ⟨slots.next + 1, (slots.next, value) :: slots.occupied⟩)

/-- Replace what an occupied slot holds. -/
def set (slots : Slots α) (number : Nat) (value : α) : Slots α :=
  { slots with
    occupied := slots.occupied.map fun (n, old) => if n = number then (n, value) else (n, old) }

/-- Free a slot. -/
def free (slots : Slots α) (number : Nat) : Slots α :=
  { slots with occupied := slots.occupied.filter fun (n, _) => n != number }

/-- Looking up a number tries the first entry and then the rest. -/
theorem lookup_entry (number other : Nat) (value : α) (rest : List (Nat × α)) :
    ((number, value) :: rest).lookup other =
      if other = number then some value else rest.lookup other := by
  by_cases same : other = number
  · simp [same]
  · have different : (other == number) = false := by simpa using same
    simp [List.lookup_cons, same, different]

/-- The slot just occupied holds the value, and every other slot what it held. -/
theorem get?_add (slots : Slots α) (value : α) (number : Nat) :
    (slots.add value).2.get? number =
      if number = slots.next then some value else slots.get? number := by
  simp only [add, get?, lookup_entry]

/-- Replacing changes what an occupied slot holds and occupies none. -/
theorem get?_set (slots : Slots α) (number other : Nat) (value : α) :
    (slots.set number value).get? other =
      if other = number then (slots.get? number).map fun _ => value else slots.get? other := by
  obtain ⟨next, occupied⟩ := slots
  simp only [set, get?]
  induction occupied with
  | nil => simp
  | cons entry rest inductionHypothesis =>
    obtain ⟨n, old⟩ := entry
    by_cases replaced : n = number
    · subst replaced
      by_cases here : other = n <;> simp [lookup_entry, inductionHypothesis, here]
    · have apart : number ≠ n := fun equal => replaced equal.symm
      simp only [List.map_cons, if_neg replaced, lookup_entry, inductionHypothesis, if_neg apart]
      by_cases here : other = n
      · simp [here, replaced]
      · simp [here]

/-- A freed slot holds nothing, and every other slot what it held. -/
theorem get?_free (slots : Slots α) (number other : Nat) :
    (slots.free number).get? other = if other = number then none else slots.get? other := by
  obtain ⟨next, occupied⟩ := slots
  simp only [free, get?]
  induction occupied with
  | nil => simp
  | cons entry rest inductionHypothesis =>
    obtain ⟨n, old⟩ := entry
    by_cases freed : n = number
    · subst freed
      rw [List.filter_cons_of_neg (by simp), inductionHypothesis, lookup_entry]
      by_cases here : other = n <;> simp [here]
    · rw [List.filter_cons_of_pos (by simpa using freed), lookup_entry, inductionHypothesis,
        lookup_entry]
      by_cases here : other = n
      · simp [here, freed]
      · simp [here]

section

variable {slots : Slots α} {value held : α} {number other : Nat}

/-- A slot that was handed out holds what it held when the next one is occupied. -/
theorem get?_add_of_lt (old : number < slots.next) :
    (slots.add value).2.get? number = slots.get? number := by
  rw [get?_add, if_neg (Nat.ne_of_lt old)]

/-- Replacing what a slot holds leaves every other slot as it is. -/
theorem get?_set_of_ne (different : other ≠ number) :
    (slots.set number value).get? other = slots.get? other := by
  rw [get?_set, if_neg different]

/-- Freeing a slot leaves every other slot as it is. -/
theorem get?_free_of_ne (different : other ≠ number) :
    (slots.free number).get? other = slots.get? other := by
  rw [get?_free, if_neg different]

/-- What a slot holds once the next one is occupied is the new value there, or was held before. -/
theorem get?_add_cases (found : (slots.add value).2.get? number = some held) :
    number = slots.next ∧ held = value ∨ slots.get? number = some held := by
  rw [get?_add] at found
  split at found
  · rename_i here
    exact .inl ⟨here, (Option.some.inj found).symm⟩
  · exact .inr found

/-- What a slot holds after a replacement is the new value there, or was held before. -/
theorem get?_set_cases (found : (slots.set number value).get? other = some held) :
    other = number ∧ held = value ∨ slots.get? other = some held := by
  rw [get?_set] at found
  split at found
  · rename_i here
    obtain ⟨_, _, same⟩ := Option.map_eq_some_iff.1 found
    exact .inl ⟨here, same.symm⟩
  · exact .inr found

/-- What a slot holds after another was freed was held before. -/
theorem get?_of_free (found : (slots.free number).get? other = some held) :
    slots.get? other = some held := by
  rw [get?_free] at found
  split at found
  · cases found
  · exact found

end

end Slots

end RowPayload
