/-!
# Cutting and joining text

Texts are cut at a separating character: everywhere (`pieces`), at its first
occurrence (`cutFirst`) or at its last (`cutLast`). `join` puts pieces together
again, so that joining the pieces of a text gives the text back.

Letter case is folded for ASCII letters only.
-/

namespace RowPayload.Text

/-- The pieces of a text between the occurrences of a separator. A text without
the separator is one piece. -/
def pieces (separator : Char) : List Char → List (List Char)
  | [] => [[]]
  | c :: rest =>
    if c = separator then [] :: pieces separator rest
    else match pieces separator rest with
      | [] => [[c]]
      | first :: others => (c :: first) :: others

/-- Pieces put together with a separating text between them. -/
def join (separator : List Char) : List (List Char) → List Char
  | [] => []
  | [piece] => piece
  | piece :: others => piece ++ separator ++ join separator others

/-- Even an empty text has a piece. -/
theorem pieces_ne_nil (separator : Char) (text : List Char) : pieces separator text ≠ [] := by
  cases text with
  | nil => simp [pieces]
  | cons c rest =>
    rw [pieces]
    split
    · simp
    · split <;> simp

/-- A character before the first piece stays there when pieces are joined. -/
theorem join_cons_cons (separator : List Char) (c : Char) (first : List Char)
    (others : List (List Char)) :
    join separator ((c :: first) :: others) = c :: join separator (first :: others) := by
  cases others <;> simp [join]

/-- Joining the pieces of a text gives the text back. -/
theorem join_pieces (separator : Char) (text : List Char) :
    join [separator] (pieces separator text) = text := by
  induction text with
  | nil => rfl
  | cons c rest inductionHypothesis =>
    rw [pieces]
    cases cut : pieces separator rest with
    | nil => exact absurd cut (pieces_ne_nil separator rest)
    | cons first others =>
      rw [cut] at inductionHypothesis
      by_cases same : c = separator
      · simp [same, join, inductionHypothesis]
      · simp [same, join_cons_cons, inductionHypothesis]

/-- The texts before and after the first occurrence of a separator. -/
def cutFirst (separator : Char) : List Char → Option (List Char × List Char)
  | [] => none
  | c :: rest =>
    if c = separator then some ([], rest)
    else (cutFirst separator rest).map fun (before, after) => (c :: before, after)

/-- The texts before and after the last occurrence of a separator. -/
def cutLast (separator : Char) (text : List Char) : Option (List Char × List Char) :=
  (cutFirst separator text.reverse).map fun (after, before) => (before.reverse, after.reverse)

/-- A text with its ASCII letters in lower case. -/
def lower (text : List Char) : List Char := text.map Char.toLower

/-- Whether two texts differ at most in the case of their ASCII letters. -/
def sameLetters (left right : String) : Bool := lower left.toList == lower right.toList

end RowPayload.Text
