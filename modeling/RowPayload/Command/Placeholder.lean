import RowPayload.Rest
import RowPayload.Text.Digits

/-!
# Shifting placeholders

Shifting a text by an offset adds the offset to the ordinal of every placeholder in
it. A placeholder is `@p` with the digits that follow; without digits, or with more
than a machine word can hold, it is left as it is. Ordinals are machine words, so a
sum past the last one counts on from zero. Shifting by nothing changes nothing, not
even leading zeros.
-/

namespace RowPayload.Placeholder

/-- Ordinals are below this bound. -/
def ordinalBound : Nat := Nat.pow 2 64

/-- The ordinal that digits spell, if there are digits and a word can hold it. -/
def ordinal? (digits : List Char) : Option Nat :=
  (Text.natural? digits).filter (· < ordinalBound)

/-- The digits of an ordinal after shifting it. -/
def shiftDigits (offset : Nat) (digits : List Char) : List Char :=
  match ordinal? digits with
  | some ordinal => (toString ((ordinal + offset) % ordinalBound)).toList
  | none => digits

/-- A text with the ordinals of its placeholders shifted by a positive offset. -/
def shiftCharacters (offset : Nat) : List Char → List Char
  | [] => []
  | '@' :: 'p' :: rest =>
    '@' :: 'p' :: shiftDigits offset (rest.takeWhile Char.isDigit) ++
      shiftCharacters offset (rest.dropWhile Char.isDigit)
  | c :: rest => c :: shiftCharacters offset rest
termination_by text => text.length
decreasing_by
  · have bound := length_dropWhile_le Char.isDigit rest
    simp only [List.length_cons]
    omega
  · simp

/-- A text with the ordinals of its placeholders shifted. -/
def shift (offset : Nat) (text : String) : String :=
  if offset = 0 then text else String.ofList (shiftCharacters offset text.toList)

end RowPayload.Placeholder
