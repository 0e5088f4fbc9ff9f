import RowPayload.Json.Basic
import RowPayload.Rest

/-!
# Reading JSON

`Json.read?` takes a whole text or nothing. Blanks are the space, the tab and the
two line ends. Every step returns the rest of the text with the fact that it is
shorter, which is why reading ends.
-/

namespace RowPayload.Json

/-- The characters that may stand between the parts of a document. -/
def isBlank (c : Char) : Bool := c = ' ' || c = '\t' || c = '\n' || c = '\r'

/-- The text after its leading blanks. -/
def skipBlanks : (input : List Char) → NoLonger input
  | [] => ⟨[], Nat.le_refl _⟩
  | c :: rest =>
    if isBlank c then
      let ⟨after, bound⟩ := skipBlanks rest
      ⟨after, Nat.le_succ_of_le bound⟩
    else ⟨c :: rest, Nat.le_refl _⟩

/-- One unit of a string literal: a character, or the code of a hexadecimal escape. -/
inductive StringUnit where
  | character (c : Char)
  | code (n : Nat)

/-- The character a one-letter escape stands for. -/
def escaped? (c : Char) : Option Char :=
  match c with
  | '"' => some '"'
  | '\\' => some '\\'
  | '/' => some '/'
  | 'b' => some (Char.ofNat 8)
  | 'f' => some (Char.ofNat 12)
  | 'n' => some '\n'
  | 'r' => some '\r'
  | 't' => some '\t'
  | _ => none

/-- The units of a string literal after its opening quote, and the text after its
closing quote. -/
def stringUnits : (input : List Char) → Option (List StringUnit × Shorter input)
  | [] => none
  | '"' :: rest => some ([], ⟨rest, Nat.lt_succ_self _⟩)
  | '\\' :: 'u' :: a :: b :: c :: d :: rest => do
    let code ← Text.hexValue? [a, b, c, d] 0
    let (units, ⟨after, bound⟩) ← stringUnits rest
    return (.code code :: units, ⟨after, by simp only [List.length_cons]; omega⟩)
  | '\\' :: c :: rest => do
    let plain ← escaped? c
    let (units, ⟨after, bound⟩) ← stringUnits rest
    return (.character plain :: units, ⟨after, by simp only [List.length_cons]; omega⟩)
  | c :: rest => do
    if c = '\\' || c.toNat < 32 then none
    let (units, ⟨after, bound⟩) ← stringUnits rest
    return (.character c :: units, ⟨after, by simp only [List.length_cons]; omega⟩)

/-- Whether a code is the first half of a surrogate pair. -/
def isHighSurrogate (n : Nat) : Bool := 0xD800 ≤ n && n ≤ 0xDBFF

/-- Whether a code is the second half of a surrogate pair. -/
def isLowSurrogate (n : Nat) : Bool := 0xDC00 ≤ n && n ≤ 0xDFFF

/-- The characters that units spell: none if half of a surrogate pair stands alone. -/
def assemble : List StringUnit → Option (List Char)
  | [] => some []
  | .character c :: rest => (assemble rest).map (c :: ·)
  | .code high :: .code low :: rest =>
    if isHighSurrogate high then
      if isLowSurrogate low then
        (assemble rest).map
          (Char.ofNat (0x10000 + (high - 0xD800) * 0x400 + (low - 0xDC00)) :: ·)
      else none
    else if isLowSurrogate high then none
    else (assemble (.code low :: rest)).map (Char.ofNat high :: ·)
  | .code n :: rest =>
    if isHighSurrogate n || isLowSurrogate n then none
    else (assemble rest).map (Char.ofNat n :: ·)

/-- A string literal after its opening quote. -/
def stringLiteral (input : List Char) : Option (Option String × Shorter input) :=
  (stringUnits input).map fun (units, rest) => ((assemble units).map String.ofList, rest)

/-- The digits at the start of a text, and the rest. -/
def digitRun : (input : List Char) → List Char × NoLonger input
  | [] => ([], ⟨[], Nat.le_refl _⟩)
  | c :: rest =>
    if c.isDigit then
      let (digits, ⟨after, bound⟩) := digitRun rest
      (c :: digits, ⟨after, Nat.le_succ_of_le bound⟩)
    else ([], ⟨c :: rest, Nat.le_refl _⟩)

/-- The digits before the point: a single zero, or digits that start with another. -/
def wholePart (input : List Char) : Option (List Char × NoLonger input) :=
  let (digits, rest) := digitRun input
  match digits with
  | [] => none
  | ['0'] => some (digits, rest)
  | '0' :: _ => none
  | _ => some (digits, rest)

/-- The point and the digits after it, if there is a point. -/
def fractionPart : (input : List Char) → Option (List Char × NoLonger input)
  | '.' :: rest =>
    let (digits, ⟨after, bound⟩) := digitRun rest
    if digits.isEmpty then none else some ('.' :: digits, ⟨after, Nat.le_succ_of_le bound⟩)
  | input => some ([], ⟨input, Nat.le_refl _⟩)

/-- The sign at the start of an exponent. -/
def exponentSign : (input : List Char) → List Char × NoLonger input
  | '+' :: rest => (['+'], ⟨rest, Nat.le_succ _⟩)
  | '-' :: rest => (['-'], ⟨rest, Nat.le_succ _⟩)
  | input => ([], ⟨input, Nat.le_refl _⟩)

/-- The power of ten, if there is one. -/
def exponentPart : (input : List Char) → Option (List Char × NoLonger input)
  | [] => some ([], ⟨[], Nat.le_refl _⟩)
  | c :: rest =>
    if c = 'e' || c = 'E' then
      let (sign, ⟨unsigned, unsignedBound⟩) := exponentSign rest
      let (digits, ⟨after, bound⟩) := digitRun unsigned
      if digits.isEmpty then none
      else some (c :: sign ++ digits,
        ⟨after, Nat.le_succ_of_le (Nat.le_trans bound unsignedBound)⟩)
    else some ([], ⟨c :: rest, Nat.le_refl _⟩)

/-- The text of a number without its sign. -/
def unsignedNumber (input : List Char) : Option (List Char × NoLonger input) := do
  let (whole, ⟨afterWhole, wholeBound⟩) ← wholePart input
  let (fraction, ⟨afterFraction, fractionBound⟩) ← fractionPart afterWhole
  let (exponent, ⟨after, bound⟩) ← exponentPart afterFraction
  return (whole ++ fraction ++ exponent,
    ⟨after, Nat.le_trans bound (Nat.le_trans fractionBound wholeBound)⟩)

/-- The text after a fixed word. -/
def afterWord : (expected input : List Char) → Option (NoLonger input)
  | [], input => some ⟨input, Nat.le_refl _⟩
  | _ :: _, [] => none
  | e :: expected, c :: rest =>
    if e = c then
      (afterWord expected rest).map fun ⟨after, bound⟩ => ⟨after, Nat.le_succ_of_le bound⟩
    else none

/-- The text after a mark, which blanks may precede. -/
def afterMark? (mark : Char) (input : List Char) : Option (Shorter input) :=
  let ⟨start, startBound⟩ := skipBlanks input
  match start, startBound with
  | [], _ => none
  | c :: rest, (bound : rest.length + 1 ≤ input.length) =>
    if c = mark then some ⟨rest, bound⟩ else none

mutual

/-- A document at the start of a text, after blanks. -/
def document (input : List Char) : Option (Json × Shorter input) :=
  let ⟨start, startBound⟩ := skipBlanks input
  match start, startBound with
  | [], _ => none
  | c :: rest, (nonempty : rest.length + 1 ≤ input.length) =>
    if c = '"' then
      (stringLiteral rest).map fun (content, ⟨after, _⟩) =>
        (.string content, ⟨after, by omega⟩)
    else if c = '[' then
      match afterMark? ']' rest with
      | some ⟨after, _⟩ => some (.array [], ⟨after, by omega⟩)
      | none =>
        match arrayItems rest with
        | none => none
        | some (items, ⟨after, _⟩) => some (.array items, ⟨after, by omega⟩)
    else if c = '\x7b' then
      match afterMark? '\x7d' rest with
      | some ⟨after, _⟩ => some (.object [], ⟨after, by omega⟩)
      | none =>
        match objectMembers rest with
        | none => none
        | some (members, ⟨after, _⟩) => some (.object members, ⟨after, by omega⟩)
    else if c = 'n' then
      (afterWord ['u', 'l', 'l'] rest).map fun ⟨after, _⟩ => (.null, ⟨after, by omega⟩)
    else if c = 't' then
      (afterWord ['r', 'u', 'e'] rest).map fun ⟨after, _⟩ => (.bool true, ⟨after, by omega⟩)
    else if c = 'f' then
      (afterWord ['a', 'l', 's', 'e'] rest).map fun ⟨after, _⟩ =>
        (.bool false, ⟨after, by omega⟩)
    else if c = '-' then
      (unsignedNumber rest).map fun (text, ⟨after, _⟩) =>
        (.number (String.ofList ('-' :: text)), ⟨after, by omega⟩)
    else if c.isDigit then
      match unsignedNumber (c :: rest) with
      | none => none
      | some (text, ⟨after, bound⟩) =>
        if short : after.length < input.length then
          some (.number (String.ofList text), ⟨after, short⟩)
        else none
    else none
termination_by (input.length, 0)
decreasing_by
  all_goals omega

/-- The items of an array up to and including its closing bracket. -/
def arrayItems (input : List Char) : Option (List Json × Shorter input) :=
  match document input with
  | none => none
  | some (item, ⟨afterItem, _⟩) =>
    match afterMark? ',' afterItem with
    | some ⟨rest, _⟩ =>
      match arrayItems rest with
      | none => none
      | some (items, ⟨after, _⟩) => some (item :: items, ⟨after, by omega⟩)
    | none =>
      match afterMark? ']' afterItem with
      | none => none
      | some ⟨after, _⟩ => some ([item], ⟨after, by omega⟩)
termination_by (input.length, 1)
decreasing_by
  all_goals omega

/-- The members of an object up to and including its closing brace. -/
def objectMembers (input : List Char) :
    Option (List (Option String × Json) × Shorter input) :=
  match afterMark? '"' input with
  | none => none
  | some ⟨afterQuote, _⟩ =>
    match stringLiteral afterQuote with
    | none => none
    | some (name, ⟨afterName, _⟩) =>
      match afterMark? ':' afterName with
      | none => none
      | some ⟨afterColon, _⟩ =>
        match document afterColon with
        | none => none
        | some (value, ⟨afterValue, _⟩) =>
          match afterMark? ',' afterValue with
          | some ⟨rest, _⟩ =>
            match objectMembers rest with
            | none => none
            | some (members, ⟨after, _⟩) =>
              some ((name, value) :: members, ⟨after, by omega⟩)
          | none =>
            match afterMark? '\x7d' afterValue with
            | none => none
            | some ⟨after, _⟩ => some ([(name, value)], ⟨after, by omega⟩)
termination_by (input.length, 1)
decreasing_by
  all_goals omega

end

/-- The document a whole text spells out. -/
def read? (text : String) : Option Json := do
  let (json, ⟨rest, _⟩) ← document text.toList
  if (skipBlanks rest).val.isEmpty then some json else none

end RowPayload.Json
