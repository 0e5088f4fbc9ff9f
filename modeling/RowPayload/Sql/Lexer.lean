import RowPayload.Command.Placeholder
import RowPayload.Rest
import RowPayload.Sql.Token
import RowPayload.Text.Blank
import RowPayload.Text.Letter

/-!
# Splitting a statement into tokens

Blanks separate tokens and are dropped. `lexeme` reads the one token that starts at
a character which is no blank, and the first character decides its kind:

* a bracket opens a quoted name, which the next closing bracket ends;
* `@p` and digits are a placeholder;
* a quote, or an `N` right before one, opens a text in which a doubled quote is a
  quote;
* `0x` opens a binary literal of pairs of hexadecimal digits;
* a digit or a minus sign opens an integer of 64 bits;
* a letter of any script or an underscore opens a word, which goes on through
  letters, numerals and underscores.
-/

namespace RowPayload.Sql

/-- Whether a character can go on a word. -/
def isWordCharacter (c : Char) : Bool := Text.isLetter c || Text.isNumeral c || c = '_'

/-- Whether a character can start a word. -/
def startsWord (c : Char) : Bool := Text.isLetter c || c = '_'

/-- The token of a character that is a token by itself. -/
def punctuation? (c : Char) : Option Token :=
  match c with
  | '(' => some .leftParen
  | ')' => some .rightParen
  | ',' => some .comma
  | '.' => some .dot
  | '=' => some .equals
  | ';' => some .semicolon
  | _ => none

/-- A name up to its closing bracket, and what follows the bracket. -/
def quotedName : List Char → Option (List Char × List Char)
  | [] => none
  | c :: rest =>
    if c = ']' then some ([], rest)
    else (quotedName rest).map fun (name, after) => (c :: name, after)

/-- The content of a text up to its closing quote, and what follows the quote. -/
def textLiteral : List Char → Option (List Char × List Char)
  | [] => none
  | '\'' :: '\'' :: rest => (textLiteral rest).map fun (content, after) => ('\'' :: content, after)
  | '\'' :: rest => some ([], rest)
  | c :: rest => (textLiteral rest).map fun (content, after) => (c :: content, after)

/-- A quoted name after its opening bracket. -/
def quotedToken (rest : List Char) : Except SyntaxFault (Token × List Char) :=
  match quotedName rest with
  | some (name, after) => .ok (.quoted (String.ofList name), after)
  | none => .error .unclosedName

/-- A text after its opening quote. -/
def textToken (rest : List Char) : Except SyntaxFault (Token × List Char) :=
  match textLiteral rest with
  | some (content, after) => .ok (.text (String.ofList content), after)
  | none => .error .unclosedText

/-- A placeholder after its `@`. -/
def placeholderToken : List Char → Except SyntaxFault (Token × List Char)
  | 'p' :: rest =>
    let digits := rest.takeWhile Char.isDigit
    match Placeholder.ordinal? digits with
    | some ordinal => .ok (.parameter ordinal, rest.dropWhile Char.isDigit)
    | none => .error (.badPlaceholder (String.ofList digits))
  | _ => .error .unknownPlaceholder

/-- A binary literal after its `0x`. -/
def hexToken (rest : List Char) : Except SyntaxFault (Token × List Char) :=
  match Text.hexBytes? (rest.takeWhile Text.isHexDigit) with
  | some bytes => .ok (.hex bytes, rest.dropWhile Text.isHexDigit)
  | none => .error .oddHex

/-- The integer of 64 bits that digits spell, after a minus sign if told so. -/
def integer? (negative : Bool) (digits : List Char) : Option Int :=
  (Text.natural? digits).bind fun n =>
    let value : Int := if negative then -n else n
    if -0x8000000000000000 ≤ value ∧ value < 0x8000000000000000 then some value else none

/-- An integer whose first character, a digit or a minus sign, has been read. -/
def numberToken (first : Char) (rest : List Char) : Except SyntaxFault (Token × List Char) :=
  let digits := rest.takeWhile Char.isDigit
  let read := if first = '-' then integer? true digits else integer? false (first :: digits)
  match read with
  | some value => .ok (.number value, rest.dropWhile Char.isDigit)
  | none => .error (.badNumber (String.ofList (first :: digits)))

/-- The token that starts at a character which is no blank, and the rest. -/
def lexeme (c : Char) (rest : List Char) : Except SyntaxFault (Token × List Char) :=
  match punctuation? c with
  | some token => .ok (token, rest)
  | none =>
    if c = '[' then quotedToken rest
    else if c = '@' then placeholderToken rest
    else if c = '\'' then textToken rest
    else if (c = 'N' ∨ c = 'n') ∧ rest.head? = some '\'' then textToken rest.tail
    else if c = '0' ∧ (rest.head? = some 'x' ∨ rest.head? = some 'X') then hexToken rest.tail
    else if c.isDigit ∨ c = '-' then numberToken c rest
    else if startsWord c then
      .ok (.word (String.ofList (c :: rest.takeWhile isWordCharacter)),
        rest.dropWhile isWordCharacter)
    else .error (.unexpectedCharacter c)

/-- What follows a quoted name is shorter than what it started in. -/
theorem length_quotedName {text name after : List Char}
    (read : quotedName text = some (name, after)) : after.length < text.length := by
  induction text generalizing name after with
  | nil => simp [quotedName] at read
  | cons c rest inductionHypothesis =>
    rw [quotedName] at read
    split at read
    · simp only [Option.some.injEq, Prod.mk.injEq] at read
      simp [← read.2]
    · simp only [Option.map_eq_some_iff] at read
      obtain ⟨⟨inner, tail⟩, found, equal⟩ := read
      simp only [Prod.mk.injEq] at equal
      have bound := inductionHypothesis found
      simp only [List.length_cons, ← equal.2]
      omega

/-- What follows a text literal is shorter than what it started in. -/
theorem length_textLiteral {text content after : List Char}
    (read : textLiteral text = some (content, after)) : after.length < text.length := by
  fun_induction textLiteral text generalizing content after with
  | case1 => simp at read
  | case2 rest inductionHypothesis =>
    simp only [Option.map_eq_some_iff] at read
    obtain ⟨⟨inner, tail⟩, found, equal⟩ := read
    simp only [Prod.mk.injEq] at equal
    have bound := inductionHypothesis found
    simp only [List.length_cons, ← equal.2]
    omega
  | case3 rest _ =>
    simp only [Option.some.injEq, Prod.mk.injEq] at read
    simp [← read.2]
  | case4 c rest _ _ inductionHypothesis =>
    simp only [Option.map_eq_some_iff] at read
    obtain ⟨⟨inner, tail⟩, found, equal⟩ := read
    simp only [Prod.mk.injEq] at equal
    have bound := inductionHypothesis found
    simp only [List.length_cons, ← equal.2]
    omega

section

variable {rest after : List Char} {token : Token}

/-- Reading a quoted name, the rest never grows. -/
theorem length_quotedToken (read : quotedToken rest = .ok (token, after)) :
    after.length ≤ rest.length := by
  unfold quotedToken at read
  split at read
  · rename_i found
    cases read
    exact Nat.le_of_lt (length_quotedName found)
  · cases read

/-- Reading a text, the rest never grows. -/
theorem length_textToken (read : textToken rest = .ok (token, after)) :
    after.length ≤ rest.length := by
  unfold textToken at read
  split at read
  · rename_i found
    cases read
    exact Nat.le_of_lt (length_textLiteral found)
  · cases read

/-- Reading a placeholder, the rest never grows. -/
theorem length_placeholderToken (read : placeholderToken rest = .ok (token, after)) :
    after.length ≤ rest.length := by
  unfold placeholderToken at read
  split at read
  · rename_i digits
    dsimp only at read
    split at read
    · cases read
      exact Nat.le_succ_of_le (length_dropWhile_le Char.isDigit digits)
    · cases read
  · cases read

/-- Reading a binary literal, the rest never grows. -/
theorem length_hexToken (read : hexToken rest = .ok (token, after)) :
    after.length ≤ rest.length := by
  unfold hexToken at read
  split at read
  · cases read
    exact length_dropWhile_le Text.isHexDigit rest
  · cases read

/-- Reading an integer, the rest never grows. -/
theorem length_numberToken {first : Char} (read : numberToken first rest = .ok (token, after)) :
    after.length ≤ rest.length := by
  unfold numberToken at read
  dsimp only at read
  split at read
  · cases read
    exact length_dropWhile_le Char.isDigit rest
  · cases read

/-- A token takes nothing but what it is made of, so the rest never grows. -/
theorem length_lexeme {c : Char} (read : lexeme c rest = .ok (token, after)) :
    after.length ≤ rest.length := by
  have tail : rest.tail.length ≤ rest.length := by simp
  unfold lexeme at read
  split at read
  · cases read
    exact Nat.le_refl _
  split at read
  · exact length_quotedToken read
  split at read
  · exact length_placeholderToken read
  split at read
  · exact length_textToken read
  split at read
  · exact Nat.le_trans (length_textToken read) tail
  split at read
  · exact Nat.le_trans (length_hexToken read) tail
  split at read
  · exact length_numberToken read
  split at read
  · cases read
    exact length_dropWhile_le isWordCharacter rest
  · cases read

end

/-- The tokens of a text. -/
def tokens : List Char → Except SyntaxFault (List Token)
  | [] => .ok []
  | c :: rest =>
    if Text.isBlank c then tokens rest
    else match _read : lexeme c rest with
      | .error fault => .error fault
      | .ok (token, after) => (tokens after).map (token :: ·)
termination_by text => text.length
decreasing_by
  · exact Nat.lt_succ_self _
  · exact Nat.lt_succ_of_le (length_lexeme ‹_›)

/-- The tokens of a statement. -/
def tokenize (sql : String) : Except SyntaxFault (List Token) := tokens sql.toList

end RowPayload.Sql
