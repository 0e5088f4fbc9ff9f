import RowPayload.Json.Basic
import RowPayload.Number.Style

/-!
# Numbers in documents

A document's number is an integer when it is written with digits alone; minus zero
is not one. As a floating-point number it is read in two steps: the leading digits
that fit 64 bits become a significand, and the significand is multiplied or divided
by one power of ten, each step rounding to the nearest 64-bit number.
-/

namespace RowPayload.Json

open Number

/-- The integer a literal spells, if it is written as one. -/
def integerLiteral? (literal : String) : Option Int :=
  match literal.toList with
  | '-' :: digits =>
    (Text.natural? digits).bind fun n => if n = 0 then none else some (-n)
  | digits => (Text.natural? digits).map fun n => (n : Int)

/-- A significand and a power of ten while digits are being read. Once a digit does
not fit, `full` is set and later digits count by their place only. -/
structure Significand where
  value : Nat
  exponent : Int
  full : Bool

namespace Significand

/-- Significands are below this bound. -/
def bound : Nat := Nat.pow 2 64

/-- The significand after a digit before the point. -/
def pushWhole (s : Significand) (c : Char) : Significand :=
  let next := s.value * 10 + (c.toNat - '0'.toNat)
  if s.full || next ≥ bound then { s with exponent := s.exponent + 1, full := true }
  else { s with value := next }

/-- The significand after a digit behind the point. -/
def pushFraction (s : Significand) (c : Char) : Significand :=
  let next := s.value * 10 + (c.toNat - '0'.toNat)
  if s.full || next ≥ bound then { s with full := true }
  else { s with value := next, exponent := s.exponent - 1 }

end Significand

/-- Exponents written with more than this are out of reach. -/
def exponentBound : Nat := Nat.pow 2 31

/-- The numerator and denominator of the 64-bit number closest to a power of ten. -/
def powerOfTen (exponent : Nat) : Nat × Nat :=
  match (Double.ofQuotient false (Nat.pow 10 exponent) 1).datum with
  | .finite _ significand e => Format.quotient significand e
  | _ => (Nat.pow 10 exponent, 1)

/-- The numerator and denominator of a finite positive 64-bit number. -/
def fraction (x : Double) : Nat × Nat :=
  match x.datum with
  | .finite _ significand exponent => Format.quotient significand exponent
  | _ => (0, 1)

/-- Whether a number is infinite. -/
def isInfinite (x : Double) : Bool :=
  match x.datum with
  | .infinite _ => true
  | _ => false

/-- The greatest power of ten that is a finite 64-bit number. -/
def greatestPower : Nat := 308

/-- A number divided by a power of ten, at most `greatestPower` at a time. -/
def divideByPower (x : Double) (exponent : Nat) : Double :=
  let (n, d) := fraction x
  if n = 0 then x
  else if exponent ≤ greatestPower then
    let (pn, pd) := powerOfTen exponent
    Double.ofQuotient false (n * pd) (d * pn)
  else
    let (pn, pd) := powerOfTen greatestPower
    divideByPower (Double.ofQuotient false (n * pd) (d * pn)) (exponent - greatestPower)
termination_by exponent
decreasing_by
  simp only [greatestPower] at *
  omega

/-- A significand times a power of ten; none if that exceeds every finite number. -/
def scale? (significand : Nat) (exponent : Int) : Option Double :=
  let x := Double.ofQuotient false significand 1
  if exponent < 0 then some (divideByPower x (-exponent).toNat)
  else if significand = 0 then some x
  else if exponent.toNat > greatestPower then none
  else
    let (n, d) := fraction x
    let (pn, pd) := powerOfTen exponent.toNat
    let product := Double.ofQuotient false (n * pn) (d * pd)
    if isInfinite product then none else some product

/-- The power of ten after the digits of a literal: none if there is no such part,
and the digits with their sign otherwise. -/
def exponentOf (text : List Char) : Option (Bool × Nat) :=
  match text with
  | [] => none
  | _ :: '-' :: digits => some (true, Text.digitsValue digits 0)
  | _ :: '+' :: digits => some (false, Text.digitsValue digits 0)
  | _ :: digits => some (false, Text.digitsValue digits 0)

/-- The 64-bit number a literal is read as; none if it is too great. -/
def doubleLiteral? (literal : String) : Option Double := do
  let text := literal.toList
  let negative := text.head? == some '-'
  let unsigned := if negative then text.drop 1 else text
  let whole := unsigned.takeWhile Char.isDigit
  let afterWhole := unsigned.dropWhile Char.isDigit
  let places := if afterWhole.head? == some '.' then (afterWhole.drop 1).takeWhile Char.isDigit
    else []
  let afterPlaces := if afterWhole.head? == some '.' then
      (afterWhole.drop 1).dropWhile Char.isDigit
    else afterWhole
  let read := whole.foldl Significand.pushWhole ⟨0, 0, false⟩
  let read := places.foldl Significand.pushFraction { read with full := false }
  let magnitude ← match exponentOf afterPlaces with
    | none => scale? read.value read.exponent
    | some (down, n) =>
      if n ≥ exponentBound then
        if read.value ≠ 0 && !down then none else some (Double.ofQuotient false 0 1)
      else scale? read.value (if down then read.exponent - n else read.exponent + n)
  return ⟨if negative then magnitude.word + 0x8000000000000000 else magnitude.word⟩

/-- A number as a document's number, null standing for those that are not finite. -/
def ofDatum (style : Style) (format : Format) (datum : Datum) : Json :=
  match datum with
  | .finite .. => .number (style.write format datum)
  | _ => .null

end RowPayload.Json
