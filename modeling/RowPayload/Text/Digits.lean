/-!
# Digits

Reading numbers from their decimal digits and bytes from pairs of hexadecimal
digits, and writing bytes as such pairs. A reader takes a whole text or nothing:
no blank, no separator and no missing digit is allowed.
-/

namespace RowPayload.Text

/-- The number that decimal digits spell, after the digits of `value`. -/
def digitsValue (digits : List Char) (value : Nat) : Nat :=
  digits.foldl (fun total c => total * 10 + (c.toNat - '0'.toNat)) value

/-- The number spelled by a nonempty text of decimal digits. -/
def natural? (text : List Char) : Option Nat :=
  if text.isEmpty || !text.all Char.isDigit then none else some (digitsValue text 0)

/-- A natural number below a bound, with an optional plus sign. -/
def counter? (bound : Nat) (text : List Char) : Option Nat :=
  let digits := match text with
    | '+' :: rest => rest
    | _ => text
  (natural? digits).filter (· < bound)

/-- The value of a hexadecimal digit of either case. -/
def hexDigit? (c : Char) : Option Nat :=
  if c.isDigit then some (c.toNat - '0'.toNat)
  else if 'a' ≤ c && c ≤ 'f' then some (c.toNat - 'a'.toNat + 10)
  else if 'A' ≤ c && c ≤ 'F' then some (c.toNat - 'A'.toNat + 10)
  else none

/-- Whether a character is a hexadecimal digit. -/
def isHexDigit (c : Char) : Bool := (hexDigit? c).isSome

/-- The number spelled by hexadecimal digits, after the digits of `value`. -/
def hexValue? : List Char → (value : Nat) → Option Nat
  | [], value => some value
  | c :: rest, value => (hexDigit? c).bind fun digit => hexValue? rest (value * 16 + digit)

/-- The bytes spelled by pairs of hexadecimal digits. -/
def hexBytes? : List Char → Option (List UInt8)
  | [] => some []
  | high :: low :: rest => do
    let byte ← hexValue? [high, low] 0
    let others ← hexBytes? rest
    return UInt8.ofNat byte :: others
  | [_] => none

/-- A number below sixteen as a lower-case hexadecimal digit. -/
def hexCharacter (digit : Nat) : Char :=
  if digit < 10 then Char.ofNat ('0'.toNat + digit) else Char.ofNat ('a'.toNat + (digit - 10))

/-- A byte as two hexadecimal digits. -/
def byteHex (byte : UInt8) : List Char :=
  [hexCharacter (byte.toNat / 16), hexCharacter (byte.toNat % 16)]

/-- Bytes as pairs of lower-case hexadecimal digits. -/
def bytesHex (bytes : List UInt8) : String := String.ofList (bytes.flatMap byteHex)

/-- A number as its shortest lower-case hexadecimal digits. -/
def naturalHex (n : Nat) : String := String.ofList (Nat.toDigits 16 n)

/-- A number in decimal, with leading zeros up to a width. -/
def padded (width n : Nat) : String :=
  let digits := toString n
  String.ofList (List.replicate (width - digits.length) '0') ++ digits

end RowPayload.Text
