import RowPayload.Text.Digits
import RowPayload.Text.Piece

/-!
# Globally unique identifiers

A GUID is a number of 128 bits. It is written as lower-case hexadecimal digits in
groups of 8, 4, 4, 4 and 12. Reading also takes upper case, the digits without
hyphens, the hyphenated form in braces and the form of a resource name, whose letters
may be of either case throughout.
-/

namespace RowPayload

/-- A globally unique identifier. -/
structure Guid where
  number : BitVec 128
deriving DecidableEq

namespace Guid

/-- The widths of the groups of digits. -/
def groups : List Nat := [8, 4, 4, 4, 12]

/-- Digits cut into groups with hyphens between them. -/
def hyphenate : List Nat → List Char → List Char
  | [], _ => []
  | [width], digits => digits.take width
  | width :: widths, digits => digits.take width ++ '-' :: hyphenate widths (digits.drop width)

/-- The hyphenated text. -/
def text (guid : Guid) : String :=
  let digits := Nat.toDigits 16 guid.number.toNat
  String.ofList (hyphenate groups (List.replicate (32 - digits.length) '0' ++ digits))

/-- The GUID of 32 hexadecimal digits. -/
def ofDigits? (digits : List Char) : Option Guid :=
  if digits.length = 32 then (Text.hexValue? digits 0).map fun n => ⟨BitVec.ofNat 128 n⟩
  else none

/-- The digits of a text whose groups have hyphens between them. -/
def unhyphenate : List Nat → List Char → Option (List Char)
  | [], rest => if rest.isEmpty then some [] else none
  | [width], rest => if rest.length = width then some rest else none
  | width :: widths, rest =>
    match rest.drop width with
    | '-' :: after => (unhyphenate widths after).map (rest.take width ++ ·)
    | _ => none

/-- The GUID of a hyphenated text. -/
def ofHyphenated? (text : List Char) : Option Guid :=
  (unhyphenate groups text).bind ofDigits?

/-- The GUID a text spells out. -/
def parse? (text : List Char) : Option Guid :=
  if text.length = 32 then ofDigits? text
  else if text.length = 36 then ofHyphenated? text
  else if text.length = 38 && text.head? == some '\x7b' && text.getLast? == some '\x7d' then
    ofHyphenated? (text.drop 1).dropLast
  else if text.length = 45 && Text.lower (text.take 9) == "urn:uuid:".toList then
    ofHyphenated? (text.drop 9)
  else none

end Guid

end RowPayload
