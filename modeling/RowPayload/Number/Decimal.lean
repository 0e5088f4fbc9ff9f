import RowPayload.Text.Digits
import RowPayload.Text.Piece
import RowPayload.Number.Binary

/-!
# Exact decimals

A decimal is a sign, a magnitude below `2 ^ 96` and a scale of at most 28 fraction
digits. Scale and sign are part of the decimal and of its text, but equality as
numbers ignores the scale and the sign of zero. A zero that was read has no sign; one
that a negative number was rounded to keeps it.

Reading accepts an optional sign, digits with at most one point, and underscores
after the first digit. Fraction digits past what the magnitude and the scale can
hold are rounded half up at the first of them, the deciding digit. What follows the
deciding digit may only be digits and underscores.
-/

namespace RowPayload.Number

/-- The number `magnitude / 10 ^ scale` with a sign. -/
structure Decimal where
  negative : Bool
  magnitude : Nat
  scale : Nat
deriving DecidableEq

namespace Decimal

/-- Magnitudes are below this bound. -/
def bound : Nat := Nat.pow 2 96

/-- The most fraction digits. -/
def maxScale : Nat := 28

/-- The whole number that the decimal is a fraction of. -/
def coefficient (decimal : Decimal) : Int :=
  if decimal.negative then -decimal.magnitude else decimal.magnitude

/-- Equality as numbers. -/
def same (left right : Decimal) : Bool :=
  left.coefficient * Nat.pow 10 right.scale == right.coefficient * Nat.pow 10 left.scale

/-- The decimal of a sign, which zero does not take, a magnitude and a scale. -/
def ofParts (negative : Bool) (magnitude scale : Nat) : Decimal :=
  ⟨negative && magnitude != 0, magnitude, scale⟩

/-- A whole number as a decimal. -/
def ofInt (n : Int) : Decimal := ⟨n < 0, n.natAbs, 0⟩

/-- The text with as many fraction digits as the scale. -/
def text (decimal : Decimal) : String :=
  let sign := if decimal.negative then "-" else ""
  if decimal.scale = 0 then sign ++ toString decimal.magnitude
  else
    let unit := Nat.pow 10 decimal.scale
    sign ++ toString (decimal.magnitude / unit) ++ "." ++
      Text.padded decimal.scale (decimal.magnitude % unit)

/-! ## Reading -/

/-- The value of a decimal digit. -/
def digitValue (c : Char) : Nat := c.toNat - '0'.toNat

/-- Round half up at a deciding digit with the text that follows it. A magnitude
that overflows by this gives up its last fraction digit. -/
def roundAt (negative : Bool) (magnitude scale digit : Nat) (rest : List Char) :
    Option Decimal :=
  let rounded := if digit ≥ 5 then magnitude + 1 else magnitude
  if !rest.all fun c => c.isDigit || c == '_' then none
  else if rounded < bound then some (ofParts negative rounded scale)
  else if scale = 0 then none
  else some (ofParts negative ((rounded + 4) / 10) (scale - 1))

/-- Magnitudes below this bound leave room for another digit in a machine word. -/
def roomyBound : Nat := Nat.pow 2 64 / 10 - 255

/-- End a decimal whose scale is exhausted, at the deciding digit if there is one.
Underscores before it are skipped, unless the magnitude was roomy before its last
digit: then an underscore itself decides, like a zero. -/
def settle (negative : Bool) (magnitude scale : Nat) (roomy : Bool) (text : List Char) :
    Option Decimal :=
  match if roomy then text else text.dropWhile (· == '_') with
  | [] => some (ofParts negative magnitude scale)
  | c :: rest =>
    if c.isDigit then roundAt negative magnitude scale (digitValue c) rest
    else if c = '_' then roundAt negative magnitude scale 0 rest
    else none

/-- Read the rest of a decimal: `point` once the point was read, `some` magnitude
once a digit was. -/
def readFrom (negative : Bool) : (text : List Char) → (point : Bool) →
    (magnitude : Option Nat) → (scale : Nat) → Option Decimal
  | [], _, magnitude, scale => magnitude.map fun m => ofParts negative m scale
  | c :: rest, point, magnitude, scale =>
    if c.isDigit then
      let previous := magnitude.getD 0
      let next := previous * 10 + digitValue c
      if next ≥ bound then
        if point then roundAt negative previous scale (digitValue c) rest else none
      else
        let places := if point then scale + 1 else scale
        if places ≥ maxScale then settle negative next places (previous < roomyBound) rest
        else readFrom negative rest point (some next) places
    else if c = '.' && !point then readFrom negative rest true magnitude scale
    else if c = '_' && magnitude.isSome then readFrom negative rest point magnitude scale
    else none

/-- The decimal a text spells out. -/
def read? (text : List Char) : Option Decimal :=
  match text with
  | '-' :: rest => readFrom true rest false none 0
  | '+' :: rest => readFrom false rest false none 0
  | _ => readFrom false text false none 0

/-! ## Powers of ten -/

/-- The closest decimal with at most a number of fraction digits, of two equally
close ones the greater in magnitude. The sign stays, even on zero. -/
def round (decimal : Decimal) (places : Nat) : Decimal :=
  if decimal.scale ≤ places then decimal
  else
    let unit := Nat.pow 10 (decimal.scale - places)
    { decimal with magnitude := (decimal.magnitude + unit / 2) / unit, scale := places }

/-- Multiply by a power of ten: first by taking fraction digits, then by growing
the magnitude. -/
def raise (decimal : Decimal) (exponent : Nat) : Option Decimal :=
  if exponent ≤ decimal.scale then some { decimal with scale := decimal.scale - exponent }
  else
    let magnitude := decimal.magnitude * Nat.pow 10 (exponent - decimal.scale)
    if magnitude < bound then some ⟨decimal.negative, magnitude, 0⟩ else none

/-- Divide by a power of ten of at most `maxScale`, by adding fraction digits. Those
that the scale has no room for are rounded off. -/
def lower (decimal : Decimal) (exponent : Nat) : Decimal :=
  let kept := decimal.round (maxScale - exponent)
  { kept with scale := kept.scale + exponent }

/-- The number of places that a power of ten moves the point, at most `maxScale` in
either direction. -/
def places? (digits : List Char) : Option Nat := Text.counter? (maxScale + 1) digits

/-- The decimal of a text with a power of ten after `e` or `E`. -/
def readScientific? (text : List Char) : Option Decimal := do
  let (base, exponent) ← Text.cutFirst 'e' (text.map fun c => if c = 'E' then 'e' else c)
  let decimal ← read? base
  match exponent with
  | '-' :: digits => return decimal.lower (← places? digits)
  | _ => decimal.raise (← places? exponent)

/-- The decimal a text spells out, with or without a power of ten. -/
def parse? (text : List Char) : Option Decimal := (read? text).or (readScientific? text)

end Decimal

end RowPayload.Number
