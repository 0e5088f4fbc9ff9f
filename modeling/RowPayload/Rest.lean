/-!
# What is left of an input

A reader takes some elements off the front of a list and returns the others. That
the rest is shorter, or at least no longer, is part of what it returns, and is why
readers that call each other come to an end.
-/

namespace RowPayload

/-- A list shorter than an input. -/
abbrev Shorter {α : Type} (input : List α) := { rest : List α // rest.length < input.length }

/-- A list no longer than an input. -/
abbrev NoLonger {α : Type} (input : List α) := { rest : List α // rest.length ≤ input.length }

/-- What is left after dropping leading elements is no longer than before. -/
theorem length_dropWhile_le {α : Type} (test : α → Bool) (input : List α) :
    (input.dropWhile test).length ≤ input.length :=
  (List.dropWhile_suffix test).length_le

end RowPayload
