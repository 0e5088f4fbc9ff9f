import RowPayload.Proofs.Sql.Acceptance
import RowPayload.Proofs.Sql.Lexemes

/-!
# Statements written out

The canonical writing of a statement has every name in brackets, every condition of two parts
in parentheses, texts with their quotes doubled, bytes as hexadecimal digits, integers in
decimal and a blank between any two tokens. Not every tree has one, because a name may hold
a closing bracket and an ordinal may be too large for its digits; but what a text is parsed as
came from tokens, and tokens of a text are free of that. So every statement that some text is
parsed as is written out, and what is written is parsed as the statement again.
-/

namespace RowPayload.Sql

/-! ## Spelling a token -/

/-- The canonical spelling of a token. -/
def Token.spelling : Token → String
  | .word letters => letters
  | .quoted name => "[" ++ name ++ "]"
  | .parameter ordinal => placeholder ordinal
  | .hex bytes => "0x" ++ Text.bytesHex bytes
  | .number value => toString value
  | .text content => "'" ++ String.ofList (doubled content.toList) ++ "'"
  | .leftParen => "("
  | .rightParen => ")"
  | .comma => ","
  | .dot => "."
  | .equals => "="
  | .semicolon => ";"

/-- A token that is read back from its spelling. -/
def Token.Writable (token : Token) : Prop := tokenize token.spelling = .ok [token]

/-- A token within the limits of its spelling: no closing bracket in a name, and no number
out of range. -/
def Token.Limited : Token → Prop
  | .word name | .quoted name => ']' ∉ name.toList
  | .parameter ordinal => ordinal < Placeholder.ordinalBound
  | .number value => -2 ^ 63 ≤ value ∧ value < 2 ^ 63
  | _ => True

/-- A token that is spelled anywhere is within its limits. -/
theorem Spells.limited {spelled following : List Char} {token : Token}
    (spells : Spells spelled token following) : token.Limited := by
  cases spells with
  | mark _ isMark =>
    unfold punctuation? at isMark
    split at isMark <;> cases isMark <;> trivial
  | quoted _ closed => simpa [Token.Limited] using closed
  | parameter _ small => exact small
  | text | national | hex => trivial
  | positive _ small => exact ⟨by omega, by omega⟩
  | negative _ small => exact ⟨by omega, by omega⟩
  | @word first others _ starts goesOn =>
    simp only [Token.Limited, String.toList_ofList, List.mem_cons, not_or]
    refine ⟨fun bracket => ?_, fun member => absurd (goesOn _ member) (by decide)⟩
    rw [← bracket] at starts
    exact absurd starts (by decide)

/-- The tokens of a text are within their limits. -/
theorem Splits.limited {text : List Char} {all : List Token} (splits : Splits text all) :
    ∀ token ∈ all, token.Limited := by
  induction splits with
  | nil => exact nofun
  | blank _ _ inductionHypothesis => exact inductionHypothesis
  | token _ spells _ inductionHypothesis =>
    exact List.forall_mem_cons.2 ⟨spells.limited, inductionHypothesis⟩

/-- A hexadecimal digit spells its value. -/
theorem hexDigit?_hexCharacter {digit : Nat} (small : digit < 16) :
    Text.hexDigit? (Text.hexCharacter digit) = some digit := by
  have all : ∀ value : Fin 16, Text.hexDigit? (Text.hexCharacter value) = some value.val := by
    decide
  exact all ⟨digit, small⟩

/-- The digits of bytes spell them. -/
theorem isHex_bytesHex (bytes : Bytes) : IsHex (Text.bytesHex bytes).toList bytes := by
  rw [Text.bytesHex, String.toList_ofList]
  induction bytes with
  | nil => exact .nil
  | cons byte others inductionHypothesis =>
    have bound : byte.toNat < 256 := byte.toNat_lt
    have upper : byte.toNat / 16 < 16 := by omega
    have lower : byte.toNat % 16 < 16 := by omega
    have spelled := IsHex.pair (hexDigit?_hexCharacter upper) (hexDigit?_hexCharacter lower)
      inductionHypothesis
    rwa [Nat.div_add_mod', UInt8.ofNat_toNat] at spelled

/-- A text that is one token is one token as a whole. -/
theorem tokenize_single {text : String} {c : Char} {rest : List Char} {token : Token}
    (start : text.toList = c :: rest) (visible : ¬ Text.isBlank c = true)
    (read : lexeme c rest = .ok (token, [])) : tokenize text = .ok [token] := by
  rw [tokenize, start]
  exact tokens_single visible read

/-- A placeholder within its limit is read back. -/
theorem writable_parameter {ordinal : Nat} (small : ordinal < Placeholder.ordinalBound) :
    (Token.parameter ordinal).Writable := tokens_placeholder small

/-- A name without a closing bracket is read back. -/
theorem writable_quoted {name : String} (closed : ']' ∉ name.toList) :
    (Token.quoted name).Writable := tokenize_bracketed closed

/-- Bytes are read back. -/
theorem writable_hex (bytes : Bytes) : (Token.hex bytes).Writable := by
  have start : (Token.hex bytes).spelling.toList =
      '0' :: 'x' :: (Text.bytesHex bytes).toList := by
    rw [Token.spelling, String.toList_append]
    rfl
  refine tokenize_single start (by decide) (lexeme_iff.2 ⟨_, (List.append_nil _).symm, ?_⟩)
  exact .hex (.inl rfl) (isHex_bytesHex bytes) nofun

/-- A text is read back. -/
theorem writable_text (content : String) : (Token.text content).Writable := by
  have start : (Token.text content).spelling.toList =
      '\'' :: (doubled content.toList ++ ['\'']) := by
    simp [Token.spelling]
  refine tokenize_single start (by decide) (lexeme_iff.2 ⟨_, (List.append_nil _).symm, ?_⟩)
  have spelled : Spells _ (.text (String.ofList content.toList)) [] := .text nofun
  rwa [String.ofList_toList] at spelled

/-- A digit is no blank. -/
theorem isBlank_of_isDigit {c : Char} (isDigit : c.isDigit = true) : Text.isBlank c = false := by
  have bounds := bounds_of_isDigit isDigit
  simp only [Text.isBlank, Bool.or_eq_false_iff, Bool.and_eq_false_iff, decide_eq_false_iff_not,
    beq_eq_false_iff_ne]
  omega

/-- An integer of 64 bits is read back. -/
theorem writable_number {value : Int} (lower : -2 ^ 63 ≤ value) (upper : value < 2 ^ 63) :
    (Token.number value).Writable := by
  cases value with
  | ofNat number =>
    have digits : Text.natural? (toString number).toList = some number := natural?_toString number
    obtain ⟨some_digit, all⟩ := natural?_digits digits
    obtain ⟨c, rest, start⟩ := List.exists_cons_of_ne_nil some_digit
    have isDigit : c.isDigit = true := all c (by rw [start]; exact List.mem_cons_self)
    rw [start] at digits
    have small : number < 2 ^ 63 := Int.ofNat_lt.1 upper
    have start : (Token.number (.ofNat number)).spelling.toList = c :: rest := start
    refine tokenize_single start (by simp [isBlank_of_isDigit isDigit])
      (lexeme_iff.2 ⟨_, (List.append_nil _).symm, ?_⟩)
    exact .positive digits small nofun fun _ => ⟨nofun, nofun⟩
  | negSucc number =>
    have digits : Text.natural? (toString (number + 1)).toList = some (number + 1) :=
      natural?_toString (number + 1)
    have start : (Token.number (.negSucc number)).spelling.toList =
        '-' :: (toString (number + 1)).toList := by
      show ("-" ++ toString (number + 1)).toList = _
      rw [String.toList_append]
      rfl
    refine tokenize_single start (by decide) (lexeme_iff.2 ⟨_, (List.append_nil _).symm, ?_⟩)
    exact .negative digits (by omega) nofun

/-- A mark is read back. -/
theorem writable_mark {mark : Token}
    (isMark : mark ∈ [.leftParen, .rightParen, .comma, .dot, .equals]) : mark.Writable := by
  simp only [List.mem_cons, List.not_mem_nil, or_false] at isMark
  rcases isMark with rfl | rfl | rfl | rfl | rfl <;>
    exact tokenize_single rfl (by decide) rfl

/-- The keywords of a statement. -/
def keywords : List String :=
  ["INSERT", "INTO", "VALUES", "UPDATE", "SET", "SELECT", "FROM", "WHERE", "AND", "OR", "NULL",
    "IF", "NOT", "EXISTS", "ELSE", "GET_FILESTREAM_TRANSACTION_CONTEXT"]

/-- A keyword is read back. -/
theorem writable_keyword {keyword : String} (isKeyword : keyword ∈ keywords) :
    (Token.word keyword).Writable := by
  have all : ∀ word ∈ keywords, tokenize word = .ok [.word word] := by
    simp only [keywords, List.forall_mem_cons]
    refine ⟨?_, ?_, ?_, ?_, ?_, ?_, ?_, ?_, ?_, ?_, ?_, ?_, ?_, ?_, ?_, ?_, nofun⟩ <;> cbv
  exact all keyword isKeyword

/-- A keyword is itself. -/
theorem isKeyword_word (keyword : String) : (Token.word keyword).isKeyword keyword = true := by
  simp [Token.isKeyword, Text.sameLetters]

/-! ## Writing a tree -/

/-- The tokens of elements with commas between them. -/
def commaSeparated {α : Type} (written : α → List Token) (values : List α) : List Token :=
  [Token.comma].intercalate (values.map written)

/-- The tokens of a name. -/
def nameWritten (name : String) : List Token := [.quoted name]

/-- The tokens of a place for a value. -/
def Operand.written : Operand → List Token
  | .column name => nameWritten name
  | .parameter ordinal => [.parameter ordinal]
  | .binary bytes => [.hex bytes]
  | .integer value => [.number value]
  | .text content => [.text content]
  | .null => [.word "NULL"]

/-- The tokens of an assignment. -/
def assignmentWritten (change : String × Operand) : List Token :=
  nameWritten change.1 ++ .equals :: change.2.written

/-- The tokens of a selected item. -/
def SelectItem.written : SelectItem → List Token
  | .one => [.number 1]
  | .pathName name => [.quoted name, .dot, .quoted "PathName", .leftParen, .rightParen]
  | .transactionContext =>
    [.word "GET_FILESTREAM_TRANSACTION_CONTEXT", .leftParen, .rightParen]
  | .column name => nameWritten name

/-- The tokens of a condition, with parentheses around every two parts. -/
def Condition.written : Condition → List Token
  | .equal left right => left.written ++ .equals :: right.written
  | .both left right =>
    .leftParen :: (left.written ++ .word "AND" :: right.written ++ [.rightParen])
  | .either left right =>
    .leftParen :: (left.written ++ .word "OR" :: right.written ++ [.rightParen])

/-- The tokens of a filter. -/
def filterWritten : Option Condition → List Token
  | none => []
  | some condition => .word "WHERE" :: condition.written

/-- The tokens of a selection after its `SELECT`. -/
def Select.written (query : Select) : List Token :=
  commaSeparated SelectItem.written query.items ++
    .word "FROM" :: (nameWritten query.table ++ filterWritten query.filter)

/-- The tokens of a question after its `IF`. -/
def questionWritten (negated : Bool) (probe : Select) : List Token :=
  let question :=
    .word "EXISTS" :: .leftParen :: .word "SELECT" :: (probe.written ++ [.rightParen])
  if negated then .word "NOT" :: question else question

/-- The tokens of a statement. -/
def Statement.written : Statement → List Token
  | .insert table columns values =>
    .word "INSERT" :: .word "INTO" :: (nameWritten table ++ .leftParen ::
      (commaSeparated nameWritten columns ++ .rightParen :: .word "VALUES" :: .leftParen ::
        (commaSeparated Operand.written values ++ [.rightParen])))
  | .update table assignments filter =>
    .word "UPDATE" :: (nameWritten table ++ .word "SET" ::
      (commaSeparated assignmentWritten assignments ++ filterWritten filter))
  | .select query => .word "SELECT" :: query.written
  | .conditional negated probe body =>
    .word "IF" :: (questionWritten negated probe ++ body.written)
  | .branch negated probe body otherwise =>
    .word "IF" :: (questionWritten negated probe ++
      (body.written ++ .word "ELSE" :: otherwise.written))

/-- A statement in its canonical writing. -/
def Statement.rendering (statement : Statement) : String :=
  " ".intercalate (statement.written.map Token.spelling)

/-- The tokens of a text in which tokens that are read back are written with blanks between
them. -/
theorem tokenize_spelled {tokens : List Token} (writable : ∀ token ∈ tokens, token.Writable) :
    tokenize (" ".intercalate (tokens.map Token.spelling)) = .ok tokens := by
  induction tokens with
  | nil => cbv
  | cons first others inductionHypothesis =>
    obtain ⟨readFirst, writableOthers⟩ := List.forall_mem_cons.1 writable
    cases others with
    | nil =>
      rw [List.map_singleton, String.intercalate_singleton]
      exact readFirst
    | cons second rest =>
      have readOthers := inductionHypothesis writableOthers
      rw [tokenize] at readOthers
      rw [Token.Writable, tokenize] at readFirst
      rw [List.map_cons, String.intercalate_cons_of_ne_nil (by simp), tokenize,
        String.toList_append, String.toList_append, List.append_assoc]
      exact tokens_spaced readFirst readOthers

/-! ## Trees that were spelled -/

/-- A tree is spelled by the tokens it is written with, and they are read back. -/
structure WrittenOut {α : Type} (relation : List Token → α → Prop) (written : α → List Token)
    (value : α) : Prop where
  spelled : relation (written value) value
  writable : ∀ token ∈ written value, token.Writable

variable {tokens : List Token}

/-- The parts of a name hold no closing bracket. -/
theorem IsName.closed {parts : List String} (isName : IsName tokens parts)
    (limited : ∀ token ∈ tokens, token.Limited) : ∀ part ∈ parts, ']' ∉ part.toList := by
  have ofPart {token : Token} {part : String} (isPart : IsPart token part)
      (limit : token.Limited) : ']' ∉ part.toList := by
    cases isPart <;> exact limit
  induction isName with
  | last isPart =>
    simp only [List.forall_mem_singleton] at limited ⊢
    exact ofPart isPart limited
  | more isPart _ inductionHypothesis =>
    simp only [List.forall_mem_cons] at limited
    exact List.forall_mem_cons.2 ⟨ofPart isPart limited.1, inductionHypothesis limited.2.2⟩

/-- The last one of some parts holds no closing bracket if none does. -/
theorem closed_getLastD {parts : List String} (closed : ∀ part ∈ parts, ']' ∉ part.toList) :
    ']' ∉ (parts.getLastD "").toList := by
  rw [List.getLastD_eq_getLast?]
  cases last : parts.getLast? with
  | none => exact nofun
  | some part => exact closed part (List.mem_of_getLast? last)

/-- Parts joined with dots hold no closing bracket if none does. -/
theorem closed_intercalate {parts : List String} (closed : ∀ part ∈ parts, ']' ∉ part.toList) :
    ']' ∉ (".".intercalate parts).toList := by
  induction parts with
  | nil => exact nofun
  | cons part others inductionHypothesis =>
    obtain ⟨first, rest⟩ := List.forall_mem_cons.1 closed
    cases others with
    | nil => rwa [String.intercalate_singleton]
    | cons second more =>
      rw [String.intercalate_cons_of_ne_nil (by simp)]
      simp only [String.toList_append, List.mem_append, not_or]
      exact ⟨⟨first, by decide⟩, inductionHypothesis rest⟩

/-- A name without a closing bracket is written as one part. -/
theorem nameWritten_spelled {name : String} (closed : ']' ∉ name.toList) :
    WrittenOut IsName (fun _ => nameWritten name) [name] :=
  ⟨.last (.quoted name), List.forall_mem_singleton.2 (writable_quoted closed)⟩

/-- A column is written out. -/
theorem IsColumn.writtenOut {name : String} (isColumn : IsColumn tokens name)
    (limited : ∀ token ∈ tokens, token.Limited) : WrittenOut IsColumn nameWritten name := by
  obtain @⟨parts, isName⟩ := isColumn
  obtain ⟨spelled, writable⟩ := nameWritten_spelled (closed_getLastD (isName.closed limited))
  have whole : IsColumn _ ([parts.getLastD ""].getLastD "") := .ofName spelled
  exact ⟨whole, writable⟩

/-- A place for a value is written out. -/
theorem IsOperand.writtenOut {value : Operand} (isOperand : IsOperand tokens value)
    (limited : ∀ token ∈ tokens, token.Limited) : WrittenOut IsOperand Operand.written value := by
  cases isOperand with
  | parameter ordinal =>
    have small : (Token.parameter ordinal).Limited := limited _ List.mem_cons_self
    exact ⟨.parameter ordinal, List.forall_mem_singleton.2 (writable_parameter small)⟩
  | binary bytes => exact ⟨.binary bytes, List.forall_mem_singleton.2 (writable_hex bytes)⟩
  | integer value =>
    have fits : (Token.number value).Limited := limited _ List.mem_cons_self
    obtain ⟨lower, upper⟩ := fits
    exact ⟨.integer value, List.forall_mem_singleton.2 (writable_number lower upper)⟩
  | text content => exact ⟨.text content, List.forall_mem_singleton.2 (writable_text content)⟩
  | null =>
    exact ⟨.null (isKeyword_word _), List.forall_mem_singleton.2 (writable_keyword (by decide))⟩
  | column isColumn =>
    obtain ⟨spelled, writable⟩ := isColumn.writtenOut limited
    exact ⟨.column spelled rfl, writable⟩

/-- A list is written out if its elements are. -/
theorem IsList.writtenOut {α : Type} {element : List Token → α → Prop}
    {written : α → List Token} (each : ∀ {tokens : List Token} {value : α},
      element tokens value → (∀ token ∈ tokens, token.Limited) → WrittenOut element written value)
    {values : List α} (isList : IsList element tokens values)
    (limited : ∀ token ∈ tokens, token.Limited) :
    WrittenOut (IsList element) (commaSeparated written) values := by
  induction isList with
  | @last tokens value isElement =>
    obtain ⟨spelled, writable⟩ := each isElement limited
    have single : commaSeparated written [value] = written value := List.intercalate_singleton
    refine ⟨?_, ?_⟩ <;> rw [single]
    · exact .last spelled
    · exact writable
  | @more tokens rest value values isElement others inductionHypothesis =>
    simp only [List.forall_mem_append, List.forall_mem_cons] at limited
    obtain ⟨spelled, writable⟩ := each isElement limited.1
    obtain ⟨spelledOthers, writableOthers⟩ := inductionHypothesis limited.2.2
    have some_value : values.map written ≠ [] := by
      cases others <;> simp
    have several : commaSeparated written (value :: values) =
        written value ++ .comma :: commaSeparated written values := by
      rw [commaSeparated, List.map_cons, List.intercalate_cons_of_ne_nil some_value,
        List.append_assoc]
      rfl
    refine ⟨?_, ?_⟩ <;> rw [several]
    · exact .more spelled spelledOthers
    · simp only [List.forall_mem_append, List.forall_mem_cons]
      exact ⟨writable, writable_mark (by decide), writableOthers⟩

/-- An assignment is written out. -/
theorem IsAssignment.writtenOut {change : String × Operand}
    (isAssignment : IsAssignment tokens change) (limited : ∀ token ∈ tokens, token.Limited) :
    WrittenOut IsAssignment assignmentWritten change := by
  obtain ⟨isColumn, isOperand⟩ := isAssignment
  simp only [List.forall_mem_append, List.forall_mem_cons] at limited
  obtain ⟨spelledColumn, writableColumn⟩ := isColumn.writtenOut limited.1
  obtain ⟨spelledValue, writableValue⟩ := isOperand.writtenOut limited.2.2
  refine ⟨.mk spelledColumn spelledValue, ?_⟩
  simp only [assignmentWritten, List.forall_mem_append, List.forall_mem_cons]
  exact ⟨writableColumn, writable_mark (by decide), writableValue⟩

/-- A selected item is written out. -/
theorem IsItem.writtenOut {item : SelectItem} (isItem : IsItem tokens item)
    (limited : ∀ token ∈ tokens, token.Limited) : WrittenOut IsItem SelectItem.written item := by
  have leftParen : Token.leftParen.Writable := writable_mark (by decide)
  have rightParen : Token.rightParen.Writable := writable_mark (by decide)
  cases isItem with
  | one =>
    exact ⟨.one, List.forall_mem_singleton.2 (writable_number (by decide) (by decide))⟩
  | context =>
    refine ⟨.context (isKeyword_word _), ?_⟩
    simp only [SelectItem.written, List.forall_mem_cons]
    exact ⟨writable_keyword (by decide), leftParen, rightParen, nofun⟩
  | @path tokens parts isName _ _ =>
    simp only [List.forall_mem_append] at limited
    have closed : ']' ∉ (parts.dropLast.getLastD "").toList :=
      closed_getLastD fun part member =>
        isName.closed limited.1 part (List.dropLast_subset _ member)
    have named : IsName [.quoted (parts.dropLast.getLastD ""), .dot, .quoted "PathName"]
        [parts.dropLast.getLastD "", "PathName"] := .more (.quoted _) (.last (.quoted _))
    have spelled := IsItem.path named rfl (by cbv)
    refine ⟨spelled, ?_⟩
    simp only [SelectItem.written, List.forall_mem_cons]
    exact ⟨writable_quoted closed, writable_mark (by decide), writable_quoted (by decide),
      leftParen, rightParen, nofun⟩
  | column isColumn =>
    obtain ⟨spelled, writable⟩ := isColumn.writtenOut limited
    exact ⟨.column spelled rfl, writable⟩

/-- A condition of any rank is written out as an atom. -/
theorem IsCondition.writtenOut {rank : Rank} {condition : Condition}
    (isCondition : IsCondition rank tokens condition)
    (limited : ∀ token ∈ tokens, token.Limited) :
    WrittenOut (IsCondition .atom) Condition.written condition := by
  have leftParen : Token.leftParen.Writable := writable_mark (by decide)
  have rightParen : Token.rightParen.Writable := writable_mark (by decide)
  induction isCondition with
  | parens _ inductionHypothesis =>
    simp only [List.forall_mem_cons, List.forall_mem_append] at limited
    exact inductionHypothesis limited.2.1
  | equal isLeft isRight =>
    simp only [List.forall_mem_cons, List.forall_mem_append] at limited
    obtain ⟨spelledLeft, writableLeft⟩ := isLeft.writtenOut limited.1
    obtain ⟨spelledRight, writableRight⟩ := isRight.writtenOut limited.2.2
    refine ⟨.equal spelledLeft spelledRight, ?_⟩
    simp only [Condition.written, List.forall_mem_cons, List.forall_mem_append]
    exact ⟨writableLeft, writable_mark (by decide), writableRight⟩
  | oneAtom _ inductionHypothesis => exact inductionHypothesis limited
  | both _ _ _ leftHypothesis rightHypothesis =>
    simp only [List.forall_mem_cons, List.forall_mem_append] at limited
    obtain ⟨spelledLeft, writableLeft⟩ := leftHypothesis limited.1
    obtain ⟨spelledRight, writableRight⟩ := rightHypothesis limited.2.2
    refine ⟨.parens (.oneConjunction
      (.both (.oneAtom spelledLeft) (isKeyword_word _) spelledRight)), ?_⟩
    simp only [Condition.written, List.forall_mem_cons, List.forall_mem_append]
    exact ⟨leftParen, ⟨writableLeft, writable_keyword (by decide), writableRight⟩, rightParen,
      nofun⟩
  | oneConjunction _ inductionHypothesis => exact inductionHypothesis limited
  | either _ _ _ leftHypothesis rightHypothesis =>
    simp only [List.forall_mem_cons, List.forall_mem_append] at limited
    obtain ⟨spelledLeft, writableLeft⟩ := leftHypothesis limited.1
    obtain ⟨spelledRight, writableRight⟩ := rightHypothesis limited.2.2
    refine ⟨.parens (.either (.oneConjunction (.oneAtom spelledLeft)) (isKeyword_word _)
      (.oneAtom spelledRight)), ?_⟩
    simp only [Condition.written, List.forall_mem_cons, List.forall_mem_append]
    exact ⟨leftParen, ⟨writableLeft, writable_keyword (by decide), writableRight⟩, rightParen,
      nofun⟩

/-- A filter is written out. -/
theorem IsFilter.writtenOut {filter : Option Condition} (isFilter : IsFilter tokens filter)
    (limited : ∀ token ∈ tokens, token.Limited) : WrittenOut IsFilter filterWritten filter := by
  cases isFilter with
  | absent => exact ⟨.absent, nofun⟩
  | present _ isCondition =>
    obtain ⟨spelled, writable⟩ := isCondition.writtenOut (List.forall_mem_cons.1 limited).2
    exact ⟨.present (isKeyword_word _) (.oneConjunction (.oneAtom spelled)),
      List.forall_mem_cons.2 ⟨writable_keyword (by decide), writable⟩⟩

/-- A selection is written out. -/
theorem IsSelection.writtenOut {query : Select} (isSelection : IsSelection tokens query)
    (limited : ∀ token ∈ tokens, token.Limited) :
    WrittenOut IsSelection Select.written query := by
  obtain ⟨isItems, _, isTable, isFilter⟩ := isSelection
  simp only [List.forall_mem_append, List.forall_mem_cons] at limited
  obtain ⟨spelledItems, writableItems⟩ := isItems.writtenOut IsItem.writtenOut limited.1
  obtain ⟨spelledTable, writableTable⟩ :=
    nameWritten_spelled (closed_intercalate (isTable.closed limited.2.2.1))
  obtain ⟨spelledFilter, writableFilter⟩ := isFilter.writtenOut limited.2.2.2
  have spelled := IsSelection.mk spelledItems (isKeyword_word "FROM") spelledTable spelledFilter
  rw [String.intercalate_singleton] at spelled
  refine ⟨spelled, ?_⟩
  simp only [Select.written, List.forall_mem_append, List.forall_mem_cons]
  exact ⟨writableItems, writable_keyword (by decide), writableTable, writableFilter⟩

/-- A question is written out. -/
theorem IsQuestion.writtenOut {negated : Bool} {probe : Select}
    (isQuestion : IsQuestion tokens negated probe) (limited : ∀ token ∈ tokens, token.Limited) :
    WrittenOut (IsQuestion · negated) (questionWritten negated) probe := by
  have leftParen : Token.leftParen.Writable := writable_mark (by decide)
  have rightParen : Token.rightParen.Writable := writable_mark (by decide)
  cases isQuestion with
  | found _ _ isProbe =>
    simp only [List.forall_mem_append, List.forall_mem_cons] at limited
    obtain ⟨spelled, writable⟩ := isProbe.writtenOut limited.2.2.2.1
    refine ⟨.found (isKeyword_word _) (isKeyword_word _) spelled, ?_⟩
    simp only [questionWritten, Bool.false_eq_true, if_false, List.forall_mem_append,
      List.forall_mem_cons]
    exact ⟨writable_keyword (by decide), leftParen, writable_keyword (by decide), writable,
      rightParen, nofun⟩
  | missing _ _ _ isProbe =>
    simp only [List.forall_mem_append, List.forall_mem_cons] at limited
    obtain ⟨spelled, writable⟩ := isProbe.writtenOut limited.2.2.2.2.1
    refine ⟨.missing (isKeyword_word _) (isKeyword_word _) (isKeyword_word _) spelled, ?_⟩
    simp only [questionWritten, if_true, List.forall_mem_append, List.forall_mem_cons]
    exact ⟨writable_keyword (by decide), writable_keyword (by decide), leftParen,
      writable_keyword (by decide), writable, rightParen, nofun⟩

/-- **A statement is written out.** -/
theorem IsStatement.writtenOut {statement : Statement} (isStatement : IsStatement tokens statement)
    (limited : ∀ token ∈ tokens, token.Limited) :
    WrittenOut IsStatement Statement.written statement := by
  have leftParen : Token.leftParen.Writable := writable_mark (by decide)
  have rightParen : Token.rightParen.Writable := writable_mark (by decide)
  induction isStatement with
  | insert _ _ isTable isColumns _ isOperands =>
    simp only [List.forall_mem_append, List.forall_mem_cons] at limited
    obtain ⟨_, _, limitedTable, _, limitedColumns, _, _, _, limitedPlaces, _⟩ := limited
    obtain ⟨spelledTable, writableTable⟩ :=
      nameWritten_spelled (closed_intercalate (isTable.closed limitedTable))
    obtain ⟨spelledColumns, writableColumns⟩ :=
      isColumns.writtenOut IsColumn.writtenOut limitedColumns
    obtain ⟨spelledPlaces, writablePlaces⟩ :=
      isOperands.writtenOut IsOperand.writtenOut limitedPlaces
    have spelled := IsStatement.insert (isKeyword_word "INSERT") (isKeyword_word "INTO")
      spelledTable spelledColumns (isKeyword_word "VALUES") spelledPlaces
    rw [String.intercalate_singleton] at spelled
    refine ⟨spelled, ?_⟩
    simp only [Statement.written, List.forall_mem_append, List.forall_mem_cons]
    exact ⟨writable_keyword (by decide), writable_keyword (by decide), writableTable, leftParen,
      writableColumns, rightParen, writable_keyword (by decide), leftParen, writablePlaces,
      rightParen, nofun⟩
  | update _ isTable _ isAssignments isFilter =>
    simp only [List.forall_mem_append, List.forall_mem_cons] at limited
    obtain ⟨_, limitedTable, _, limitedChanges, limitedFilter⟩ := limited
    obtain ⟨spelledTable, writableTable⟩ :=
      nameWritten_spelled (closed_intercalate (isTable.closed limitedTable))
    obtain ⟨spelledChanges, writableChanges⟩ :=
      isAssignments.writtenOut IsAssignment.writtenOut limitedChanges
    obtain ⟨spelledFilter, writableFilter⟩ := isFilter.writtenOut limitedFilter
    have spelled := IsStatement.update (isKeyword_word "UPDATE") spelledTable
      (isKeyword_word "SET") spelledChanges spelledFilter
    rw [String.intercalate_singleton] at spelled
    refine ⟨spelled, ?_⟩
    simp only [Statement.written, List.forall_mem_append, List.forall_mem_cons]
    exact ⟨writable_keyword (by decide), writableTable, writable_keyword (by decide),
      writableChanges, writableFilter⟩
  | select _ isQuery =>
    obtain ⟨spelled, writable⟩ := isQuery.writtenOut (List.forall_mem_cons.1 limited).2
    exact ⟨.select (isKeyword_word _) spelled,
      List.forall_mem_cons.2 ⟨writable_keyword (by decide), writable⟩⟩
  | conditional _ isQuestion _ inductionHypothesis =>
    simp only [List.forall_mem_append, List.forall_mem_cons] at limited
    obtain ⟨spelledQuestion, writableQuestion⟩ := isQuestion.writtenOut limited.2.1
    obtain ⟨spelledBody, writableBody⟩ := inductionHypothesis limited.2.2
    refine ⟨.conditional (isKeyword_word _) spelledQuestion spelledBody, ?_⟩
    simp only [Statement.written, List.forall_mem_append, List.forall_mem_cons]
    exact ⟨writable_keyword (by decide), writableQuestion, writableBody⟩
  | branch _ isQuestion _ closed _ _ bodyHypothesis otherwiseHypothesis =>
    simp only [List.forall_mem_append, List.forall_mem_cons] at limited
    obtain ⟨spelledQuestion, writableQuestion⟩ := isQuestion.writtenOut limited.2.1
    obtain ⟨spelledBody, writableBody⟩ := bodyHypothesis limited.2.2.1
    obtain ⟨spelledOtherwise, writableOtherwise⟩ := otherwiseHypothesis limited.2.2.2.2
    refine ⟨.branch (isKeyword_word _) spelledQuestion spelledBody closed (isKeyword_word _)
      spelledOtherwise, ?_⟩
    simp only [Statement.written, List.forall_mem_append, List.forall_mem_cons]
    exact ⟨writable_keyword (by decide), writableQuestion, writableBody,
      writable_keyword (by decide), writableOtherwise⟩

/-! ## The language -/

/-- A text is parsed as a statement exactly if its tokens spell it, up to semicolons. -/
theorem parse_iff {text : String} {read : Statement} :
    parse text = .ok read ↔ ∃ tokens semicolons,
      tokenize text = .ok (tokens ++ List.replicate semicolons .semicolon) ∧
        IsStatement tokens read := by
  rw [parse]
  constructor
  · intro accepted
    obtain ⟨all, split, whole⟩ := Checked.bind_ok accepted
    obtain ⟨tokens, semicolons, rfl, spelled⟩ := wholeStatement_iff.1 whole
    exact ⟨tokens, semicolons, split, spelled⟩
  · rintro ⟨tokens, semicolons, split, spelled⟩
    rw [split]
    exact spelled.readWhole semicolons

/-- What a text is parsed as is parsed from its canonical writing too. -/
theorem parse_rendering {text : String} {read : Statement} (accepted : parse text = .ok read) :
    parse read.rendering = .ok read := by
  obtain ⟨tokens, semicolons, split, spelled⟩ := parse_iff.1 accepted
  have limited : ∀ token ∈ tokens, token.Limited := fun token member =>
    (tokenize_iff.1 split).limited token (List.mem_append_left _ member)
  obtain ⟨spelledOut, writable⟩ := spelled.writtenOut limited
  exact IsStatement.parse (tokenize_spelled writable) spelledOut

/-- **The parser accepts exactly the grammar.** A text is split into tokens by the rules for
their spelling, and is parsed as a statement exactly if its tokens spell that statement with
any number of semicolons after it; and whatever it is parsed as is parsed from its canonical
writing again. -/
theorem parser_language (text : String) (read : Statement) :
    (∀ tokens, tokenize text = .ok tokens ↔ Splits text.toList tokens) ∧
      (parse text = .ok read ↔ ∃ tokens semicolons,
        Splits text.toList (tokens ++ List.replicate semicolons .semicolon) ∧
          IsStatement tokens read) ∧
      (parse text = .ok read → parse read.rendering = .ok read) := by
  refine ⟨fun tokens => tokenize_iff, ?_, parse_rendering⟩
  simp only [parse_iff, tokenize_iff]

/-- Keywords in any case, parentheses that say nothing, parts of a column's name and semicolons
are gone from the canonical writing. -/
example : (parse "select x.PathName() From dbo.T where (a = 1) and t.b = Null or c = N'it''s';").map
    Statement.rendering = .ok ("SELECT [x] . [PathName] ( ) FROM [dbo.T] WHERE " ++
      "( ( [a] = 1 AND [b] = NULL ) OR [c] = 'it''s' )") := by
  decide +kernel

end RowPayload.Sql
