import RowPayload.Text.Digits

/-!
# JSON documents

A document as a tree. Numbers keep the text they are written with, and a string
literal that spells no text, because of a lone surrogate escape, keeps none.
Members stay in order and names may repeat: what a repeated name means is decided
by whoever reads the object.
-/

namespace RowPayload

/-- A JSON document. -/
inductive Json where
  | null
  | bool (value : Bool)
  | number (literal : String)
  | string (content : Option String)
  | array (items : List Json)
  | object (members : List (Option String × Json))

namespace Json

/-- A text as a document. -/
def ofText (text : String) : Json := .string (some text)

/-- A text that may be missing as a document. -/
def ofTextOption : Option String → Json
  | none => .null
  | some text => ofText text

/-- An integer as a document. -/
def ofInt (n : Int) : Json := .number (toString n)

/-- An object with distinct members. -/
def ofMembers (members : List (String × Json)) : Json :=
  .object (members.map fun entry => (some entry.1, entry.2))

/-- The first member of an object with a name. -/
def member? (json : Json) (name : String) : Option Json :=
  match json with
  | .object members => members.lookup (some name)
  | _ => none

/-- The first member of an object with a name, null if there is none. -/
def member (json : Json) (name : String) : Json := (json.member? name).getD .null

/-- One character inside a string literal. -/
def escape (c : Char) : List Char :=
  if c = '"' then ['\\', '"']
  else if c = '\\' then ['\\', '\\']
  else if c = '\n' then ['\\', 'n']
  else if c = '\r' then ['\\', 'r']
  else if c = '\t' then ['\\', 't']
  else if c.toNat = 8 then ['\\', 'b']
  else if c.toNat = 12 then ['\\', 'f']
  else if c.toNat < 32 then ['\\', 'u', '0', '0'] ++ Text.byteHex (UInt8.ofNat c.toNat)
  else [c]

/-- A text as a string literal. -/
def literal (text : String) : String :=
  String.ofList ('"' :: text.toList.flatMap escape ++ ['"'])

mutual

/-- The document without any blanks. -/
def write : Json → String
  | .null => "null"
  | .bool value => if value then "true" else "false"
  | .number text => text
  | .string content => literal (content.getD "")
  | .array items => "[" ++ ",".intercalate (writeItems items) ++ "]"
  | .object members => "\x7b" ++ ",".intercalate (writeMembers members) ++ "\x7d"

/-- The texts of the items of an array. -/
def writeItems : List Json → List String
  | [] => []
  | item :: rest => write item :: writeItems rest

/-- The texts of the members of an object. -/
def writeMembers : List (Option String × Json) → List String
  | [] => []
  | (name, value) :: rest => (literal (name.getD "") ++ ":" ++ write value) :: writeMembers rest

end

end Json

end RowPayload
