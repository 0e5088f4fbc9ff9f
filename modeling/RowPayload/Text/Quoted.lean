import RowPayload.Text.Printable
import RowPayload.Text.Digits

/-!
# Quoted text

Descriptions show a text between double quotes, with a backslash escape for the
quote, the backslash, the usual control characters and every character that
would not be seen on its own.
-/

namespace RowPayload.Text

/-- One character as it stands between quotes. -/
def quotedCharacter (c : Char) : List Char :=
  if c = '"' then ['\\', '"']
  else if c = '\\' then ['\\', '\\']
  else if c = '\n' then ['\\', 'n']
  else if c = '\r' then ['\\', 'r']
  else if c = '\t' then ['\\', 't']
  else if c.toNat = 0 then ['\\', '0']
  else if isJoining c || !isPrintable c then
    ['\\', 'u', '\x7b'] ++ (naturalHex c.toNat).toList ++ ['\x7d']
  else [c]

/-- A text between double quotes. -/
def quoted (text : String) : String :=
  String.ofList ('"' :: text.toList.flatMap quotedCharacter ++ ['"'])

end RowPayload.Text
