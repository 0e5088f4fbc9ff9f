import RowPayload.Number.Binary

/-!
# Shortest decimals

Every positive finite word stands for all reals that round to it. The shortest
decimal of a word is a decimal with the fewest digits among those reals, and of
these the one closest to the word's own value. When two are equally close the
caller's rule decides.

For a digit count the only candidates are the two neighbours of the value on the
grid of decimals with that many digits: if any grid point rounds to the word, so
does one of them.
-/

namespace RowPayload.Number

/-- Which of two equally close decimals is taken. -/
inductive Tie where
  | up
  | toEven
deriving DecidableEq

/-- The decimal `digits * 10 ^ exponent`. -/
structure ShortDecimal where
  digits : Nat
  exponent : Int
deriving DecidableEq

namespace ShortDecimal

/-- The number of decimal digits of a natural; none for zero. -/
def digitCount (n : Nat) : Nat := if n = 0 then 0 else (Nat.toDigits 10 n).length

/-- The exponent of the first digit of a positive quotient. -/
def leadingExponent (numerator denominator : Nat) : Int :=
  if denominator ≤ numerator then (digitCount (numerator / denominator) : Int) - 1
  else -(digitCount ((denominator + numerator - 1) / numerator - 1) : Int)

/-- The interval of reals that round to a word, as multiples of `1 / denominator`.
The ends belong to it exactly when `closed`. -/
structure Interval where
  low : Nat
  value : Nat
  high : Nat
  denominator : Nat
  closed : Bool

/-- The reals that round to `significand * 2 ^ exponent`. The gap below is half as
wide where the exponent field changes. -/
def interval (format : Format) (significand : Nat) (exponent : Int) : Interval :=
  let narrowBelow := significand == format.fractions && exponent > format.leastExponent
  let (unit, denominator) := Format.quotient 1 (exponent - 2)
  { low := (4 * significand - if narrowBelow then 1 else 2) * unit
    value := 4 * significand * unit
    high := (4 * significand + 2) * unit
    denominator := denominator
    closed := significand % 2 == 0 }

/-- Whether `count * 10 ^ exponent` lies in the interval. -/
def Interval.holds (i : Interval) (count : Nat) (exponent : Int) : Bool :=
  let (n, d) := if exponent ≥ 0 then (count * Nat.pow 10 exponent.toNat, 1)
    else (count, Nat.pow 10 (-exponent).toNat)
  let x := n * i.denominator
  if i.closed then i.low * d ≤ x && x ≤ i.high * d else i.low * d < x && x < i.high * d

/-- The better of the value's two neighbours among decimals with a digit count, if
one of them rounds to the word. -/
def Interval.candidate (i : Interval) (tie : Tie) (leading : Int) (count : Nat) :
    Option ShortDecimal :=
  let exponent := leading - count + 1
  let (n, d) := if exponent ≥ 0 then (i.value, i.denominator * Nat.pow 10 exponent.toNat)
    else (i.value * Nat.pow 10 (-exponent).toNat, i.denominator)
  let below := n / d
  let twice := 2 * (n % d)
  let preferAbove := twice > d || (twice == d && (tie = .up || below % 2 == 1))
  let (first, second) := if preferAbove then (below + 1, below) else (below, below + 1)
  if i.holds first exponent then some ⟨first, exponent⟩
  else if i.holds second exponent then some ⟨second, exponent⟩
  else none

/-- Trailing zeros of the digits moved into the exponent, at most `steps` of them. -/
def normalize : (steps : Nat) → ShortDecimal → ShortDecimal
  | 0, decimal => decimal
  | steps + 1, decimal =>
    if decimal.digits ≠ 0 ∧ decimal.digits % 10 = 0 then
      normalize steps ⟨decimal.digits / 10, decimal.exponent + 1⟩
    else decimal

/-- The most digits a shortest decimal can have in a format. -/
def mostDigits (format : Format) : Nat := format.fractionBits * 3 / 10 + 3

/-- The shortest decimal of a positive `significand * 2 ^ exponent`. -/
def ofFinite (format : Format) (tie : Tie) (significand : Nat) (exponent : Int) :
    ShortDecimal :=
  let i := interval format significand exponent
  let leading := leadingExponent i.value i.denominator
  let counts := (List.range (mostDigits format)).map (· + 1)
  let found := counts.findSome? (i.candidate tie leading)
  let decimal := found.getD ⟨significand, exponent⟩
  normalize (digitCount decimal.digits) decimal

end ShortDecimal

end RowPayload.Number
