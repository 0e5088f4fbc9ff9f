/-!
# Binary floating-point words

A floating-point number is kept as the word that encodes it. `Format.decode`
reads a word as a signed multiple of a power of two, and `Format.nearest` finds
the word closest to a quotient of naturals, the even one of two that are equally
close. All arithmetic is exact on naturals.
-/

namespace RowPayload.Number

/-- The widths of the fraction and exponent fields of a word. -/
structure Format where
  fractionBits : Nat
  exponentBits : Nat
deriving DecidableEq

/-- What a word stands for. A finite number is `significand * 2 ^ exponent`. -/
inductive Datum where
  | notANumber
  | infinite (negative : Bool)
  | finite (negative : Bool) (significand : Nat) (exponent : Int)
deriving DecidableEq

namespace Format

/-- Words of 32 bits. -/
def single : Format := ⟨23, 8⟩

/-- Words of 64 bits. -/
def double : Format := ⟨52, 11⟩

/-- The number of words with one sign and one exponent field. -/
def fractions (format : Format) : Nat := Nat.pow 2 format.fractionBits

/-- The exponent field of infinities and of words that are not numbers. -/
def topExponent (format : Format) : Nat := Nat.pow 2 format.exponentBits - 1

/-- The weight of the sign bit. -/
def signWeight (format : Format) : Nat := Nat.pow 2 (format.fractionBits + format.exponentBits)

/-- The exponent of the last fraction bit of the smallest numbers. -/
def leastExponent (format : Format) : Int :=
  2 - Int.pow 2 (format.exponentBits - 1) - format.fractionBits

/-- The sign bit of a word. -/
def negative (format : Format) (word : Nat) : Bool := word / format.signWeight % 2 == 1

/-- The exponent field of a word. -/
def exponentField (format : Format) (word : Nat) : Nat :=
  word / format.fractions % Nat.pow 2 format.exponentBits

/-- The fraction field of a word. -/
def fractionField (format : Format) (word : Nat) : Nat := word % format.fractions

/-- The number a word encodes. -/
def decode (format : Format) (word : Nat) : Datum :=
  let sign := format.negative word
  let field := format.exponentField word
  let fraction := format.fractionField word
  if field = format.topExponent then
    if fraction = 0 then .infinite sign else .notANumber
  else if field = 0 then .finite sign fraction format.leastExponent
  else .finite sign (format.fractions + fraction) (format.leastExponent + field - 1)

/-- The word of positive infinity. -/
def infinity (format : Format) : Nat := format.topExponent * format.fractions

/-- The natural closest to a quotient, the even one of two equally close. -/
def roundQuotient (numerator denominator : Nat) : Nat :=
  let quotient := numerator / denominator
  let twice := 2 * (numerator % denominator)
  if twice > denominator || (twice == denominator && quotient % 2 == 1) then quotient + 1
  else quotient

/-- A numerator and denominator of `numerator / denominator * 2 ^ (-exponent)`. -/
def scaled (numerator denominator : Nat) (exponent : Int) : Nat × Nat :=
  if exponent ≥ 0 then (numerator, denominator * Nat.pow 2 exponent.toNat)
  else (numerator * Nat.pow 2 (-exponent).toNat, denominator)

/-- The exponent of the last bit kept when a quotient is rounded: as small as the
field width and the format allow. -/
def lastExponent (format : Format) (numerator denominator : Nat) : Int :=
  let guess : Int := (numerator.log2 : Int) - denominator.log2
  let (n, d) := scaled numerator denominator guess
  let top := if n < d then guess - 1 else guess
  max format.leastExponent (top - format.fractionBits)

/-- The positive word closest to a quotient of naturals; infinity when the
rounded quotient exceeds every finite word. -/
def nearest (format : Format) (numerator denominator : Nat) : Nat :=
  if numerator = 0 then 0
  else
    let exponent := format.lastExponent numerator denominator
    let (n, d) := scaled numerator denominator exponent
    let word := (exponent - format.leastExponent).toNat * format.fractions + roundQuotient n d
    min word format.infinity

/-- A word with the sign bit set as told. -/
def withSign (format : Format) (negative : Bool) (word : Nat) : Nat :=
  if negative then format.signWeight + word else word

/-- The numerator and denominator of `significand * 2 ^ exponent`. -/
def quotient (significand : Nat) (exponent : Int) : Nat × Nat :=
  if exponent ≥ 0 then (significand * Nat.pow 2 exponent.toNat, 1)
  else (significand, Nat.pow 2 (-exponent).toNat)

/-- The word of one format closest to a word of another. The leading fraction
bits of a word that is not a number are kept, and its first bit is set. -/
def convert (source target : Format) (word : Nat) : Nat :=
  let sign := source.negative word
  match source.decode word with
  | .notANumber =>
    let fraction :=
      source.fractionField word * Nat.pow 2 (target.fractionBits - source.fractionBits) /
        Nat.pow 2 (source.fractionBits - target.fractionBits)
    let quiet := target.fractions / 2
    target.withSign sign (target.infinity + (quiet + fraction % quiet))
  | .infinite _ => target.withSign sign target.infinity
  | .finite _ significand exponent =>
    let (n, d) := quotient significand exponent
    target.withSign sign (target.nearest n d)

/-- Equality of the numbers two words encode: a word that is not a number equals
nothing, and the two zeros are equal. -/
def same (format : Format) (left right : Nat) : Bool :=
  match format.decode left, format.decode right with
  | .notANumber, _ | _, .notANumber => false
  | .finite _ 0 _, .finite _ 0 _ => true
  | l, r => l == r

end Format

/-- A floating-point number of 32 bits. -/
structure Single where
  word : UInt32
deriving DecidableEq

/-- A floating-point number of 64 bits. -/
structure Double where
  word : UInt64
deriving DecidableEq

namespace Single

/-- The number encoded. -/
def datum (x : Single) : Datum := Format.single.decode x.word.toNat

/-- Equality as numbers. -/
def same (left right : Single) : Bool := Format.single.same left.word.toNat right.word.toNat

/-- The same number in 64 bits. -/
def widen (x : Single) : Double :=
  ⟨UInt64.ofNat (Format.single.convert Format.double x.word.toNat)⟩

/-- The closest number to a signed quotient of naturals. -/
def ofQuotient (negative : Bool) (numerator denominator : Nat) : Single :=
  ⟨UInt32.ofNat (Format.single.withSign negative
    (Format.single.nearest numerator denominator))⟩

end Single

namespace Double

/-- The number encoded. -/
def datum (x : Double) : Datum := Format.double.decode x.word.toNat

/-- Equality as numbers. -/
def same (left right : Double) : Bool := Format.double.same left.word.toNat right.word.toNat

/-- The closest number of 32 bits. -/
def narrow (x : Double) : Single :=
  ⟨UInt32.ofNat (Format.double.convert Format.single x.word.toNat)⟩

/-- The closest number to a signed quotient of naturals. -/
def ofQuotient (negative : Bool) (numerator denominator : Nat) : Double :=
  ⟨UInt64.ofNat (Format.double.withSign negative
    (Format.double.nearest numerator denominator))⟩

end Double

end RowPayload.Number
