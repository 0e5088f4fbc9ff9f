import RowPayload.Number.Shortest
import RowPayload.Text.Digits

/-!
# Number styles

A style fixes what the shortest decimal leaves open: which numbers are written
positionally and which with a power of ten, whether a positive power shows its sign
and a whole number a zero fraction, how ties are broken and how the words that are
not finite are spelled.

A decimal's point position is the exponent of the first digit plus one, so a
number with point position `p` lies in `[10 ^ (p - 1), 10 ^ p)`.
-/

namespace RowPayload.Number

/-- The choices a written number depends on. -/
structure Style where
  /-- The least point position written positionally; every one when absent. -/
  positionalFrom : Option Int
  /-- The greatest point position written positionally; every one when absent. -/
  positionalTo : Option Int
  /-- What stands before a power of ten that is not negative. -/
  powerSign : String
  /-- What follows the digits of a whole number written positionally. -/
  wholeEnding : String
  tie : Tie

namespace Style

/-- The digits of a decimal with a point where its exponent puts it. -/
def positional (style : Style) (decimal : ShortDecimal) : String :=
  let digits := toString decimal.digits
  if decimal.exponent ≥ 0 then
    digits ++ String.ofList (List.replicate decimal.exponent.toNat '0') ++ style.wholeEnding
  else
    let places := (-decimal.exponent).toNat
    if digits.length > places then
      String.ofList (digits.toList.take (digits.length - places)) ++ "." ++
        String.ofList (digits.toList.drop (digits.length - places))
    else "0." ++ String.ofList (List.replicate (places - digits.length) '0') ++ digits

/-- One digit, a point before the others if there are any, and a power of ten. -/
def scientific (style : Style) (decimal : ShortDecimal) : String :=
  let digits := (toString decimal.digits).toList
  let exponent := decimal.exponent + digits.length - 1
  let fraction := digits.drop 1
  String.ofList (digits.take 1) ++ (if fraction.isEmpty then "" else "." ++ String.ofList fraction) ++
    "e" ++ (if exponent < 0 then "" else style.powerSign) ++ toString exponent

/-- The point position of a decimal. -/
def pointPosition (decimal : ShortDecimal) : Int :=
  decimal.exponent + ShortDecimal.digitCount decimal.digits

/-- Whether a decimal is written positionally. -/
def isPositional (style : Style) (decimal : ShortDecimal) : Bool :=
  style.positionalFrom.all (· ≤ pointPosition decimal) &&
    style.positionalTo.all (pointPosition decimal ≤ ·)

/-- The text of a positive decimal. -/
def magnitude (style : Style) (decimal : ShortDecimal) : String :=
  if style.isPositional decimal then style.positional decimal else style.scientific decimal

/-- The text of a finite number; zero is written positionally. -/
def finite (style : Style) (format : Format) (negative : Bool) (significand : Nat)
    (exponent : Int) : String :=
  let sign := if negative then "-" else ""
  if significand = 0 then sign ++ "0" ++ style.wholeEnding
  else sign ++ style.magnitude (ShortDecimal.ofFinite format style.tie significand exponent)

/-- The text of a number, with `NaN` and `inf` for those that are not finite. -/
def write (style : Style) (format : Format) : Datum → String
  | .notANumber => "NaN"
  | .infinite negative => if negative then "-inf" else "inf"
  | .finite negative significand exponent => style.finite format negative significand exponent

/-- Plain text never uses a power of ten and shows no zero fraction. -/
def plain : Style := ⟨none, none, "", "", .up⟩

/-- Descriptions write from one ten-thousandth up to ten quadrillion positionally
and give whole numbers a zero fraction. -/
def described : Style := ⟨some (-3), some 16, "", ".0", .up⟩

/-- Documents write 64-bit numbers positionally from a hundred-thousandth up to
ten quadrillion, and a positive power of ten with its sign. -/
def documentDouble : Style := ⟨some (-4), some 16, "+", ".0", .toEven⟩

/-- Documents write 32-bit numbers positionally from a millionth up to ten
trillion, and a positive power of ten with its sign. -/
def documentSingle : Style := ⟨some (-5), some 13, "+", ".0", .toEven⟩

end Style

end RowPayload.Number
