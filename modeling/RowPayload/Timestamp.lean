import RowPayload.Text.Blank
import RowPayload.Text.Digits

/-!
# Timestamps without a time zone

A timestamp is a civil date and a time of day down to the nanosecond. A second
may be numbered 60, for a leap second. Its text shows no fraction, or one of 3,
6 or 9 digits: the fewest that lose nothing.
-/

namespace RowPayload

/-- A civil date and a time of day. -/
structure Timestamp where
  year : Int
  month : Nat
  day : Nat
  hour : Nat
  minute : Nat
  second : Nat
  nanosecond : Nat
deriving DecidableEq

namespace Timestamp

/-- Whether a year has a 29th of February. -/
def isLeapYear (year : Int) : Bool :=
  year % 4 == 0 && (year % 100 != 0 || year % 400 == 0)

/-- The number of days of a month; none for a number that is no month. -/
def daysInMonth (year : Int) (month : Nat) : Nat :=
  if month = 2 then if isLeapYear year then 29 else 28
  else if month ∈ [4, 6, 9, 11] then 30
  else if month ∈ [1, 3, 5, 7, 8, 10, 12] then 31
  else 0

/-- The first and last year a timestamp can have. -/
def yearRange : Int × Int := (-262143, 262142)

/-- Whether the parts name a day of the calendar and a time of day. -/
def isValid (t : Timestamp) : Bool :=
  yearRange.1 ≤ t.year && t.year ≤ yearRange.2 &&
    1 ≤ t.day && t.day ≤ daysInMonth t.year t.month &&
    t.hour < 24 && t.minute < 60 && t.second ≤ 60 && t.nanosecond < 1000000000

/-- The year with four digits, and a sign outside of 0 to 9999. -/
def yearText (year : Int) : String :=
  if 0 ≤ year ∧ year ≤ 9999 then Text.padded 4 year.toNat
  else (if year < 0 then "-" else "+") ++ Text.padded 4 year.natAbs

/-- The fraction of a second with the fewest of 3, 6 or 9 digits. -/
def fractionText (nanosecond : Nat) : String :=
  if nanosecond = 0 then ""
  else if nanosecond % 1000000 = 0 then "." ++ Text.padded 3 (nanosecond / 1000000)
  else if nanosecond % 1000 = 0 then "." ++ Text.padded 6 (nanosecond / 1000)
  else "." ++ Text.padded 9 nanosecond

/-- The date, a separator and the time of day. -/
def textWith (separator : String) (t : Timestamp) : String :=
  yearText t.year ++ "-" ++ Text.padded 2 t.month ++ "-" ++ Text.padded 2 t.day ++ separator ++
    Text.padded 2 t.hour ++ ":" ++ Text.padded 2 t.minute ++ ":" ++ Text.padded 2 t.second ++
    fractionText t.nanosecond

/-- The text people read, with a blank before the time. -/
def text (t : Timestamp) : String := t.textWith " "

/-- The text documents hold, with a `T` before the time. -/
def documentText (t : Timestamp) : String := t.textWith "T"

/-- The number of up to `most` digits at the start of a text, and the rest. -/
def leadingNumber (most : Nat) (input : List Char) : Option (Nat × List Char) :=
  let digits := (input.take most).takeWhile Char.isDigit
  if digits.isEmpty then none
  else some (Text.digitsValue digits 0, input.drop digits.length)

/-- A number of up to two digits after any blanks. -/
def field (input : List Char) : Option (Nat × List Char) :=
  leadingNumber 2 (Text.trimStart input)

/-- The year after any blanks: four digits, or any number of them after a sign. -/
def yearField (input : List Char) : Option (Int × List Char) :=
  match Text.trimStart input with
  | '-' :: rest => (leadingNumber rest.length rest).map fun (n, rest) => (-n, rest)
  | '+' :: rest => (leadingNumber rest.length rest).map fun (n, rest) => (n, rest)
  | rest => (leadingNumber 4 rest).map fun (n, rest) => (n, rest)

/-- The rest of a text after a fixed character, blanks before it being skipped. -/
def mark (c : Char) (input : List Char) : Option (List Char) :=
  match Text.trimStart input with
  | first :: rest => if first = c then some rest else none
  | [] => none

/-- The fraction of a second, if there is a point, in nanoseconds. Digits past the
ninth are dropped. -/
def fractionField (input : List Char) : Option (Nat × List Char) :=
  match input with
  | '.' :: rest => do
    let (n, after) ← leadingNumber 9 rest
    let width := rest.length - after.length
    return (n * Nat.pow 10 (9 - width), after.dropWhile Char.isDigit)
  | _ => some (0, input)

/-- The timestamp a text spells out. -/
def parse? (input : List Char) : Option Timestamp := do
  let (year, rest) ← yearField input
  let (month, rest) ← field (← mark '-' rest)
  let (day, rest) ← field (← mark '-' rest)
  let (hour, rest) ← field (← mark 'T' rest)
  let (minute, rest) ← field (← mark ':' rest)
  let (second, rest) ← field (← mark ':' rest)
  let (nanosecond, rest) ← fractionField rest
  let t : Timestamp := ⟨year, month, day, hour, minute, second, nanosecond⟩
  if (Text.trimStart rest).isEmpty && t.isValid then some t else none

end Timestamp

end RowPayload
