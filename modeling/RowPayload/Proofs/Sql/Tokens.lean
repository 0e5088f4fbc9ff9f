import RowPayload.Command.Basic
import RowPayload.Proofs.Work.Checked
import RowPayload.Sql.Lexer

/-!
# Tokens of a text in pieces

Statements are written piece by piece, and the tokens of the whole are those of the
pieces as long as no token runs on from one piece into the next. It cannot where the next
piece starts with a character that ends every token, or where a blank stands between the
pieces. So the tokens of a piece are found once, on its own.
-/

namespace RowPayload.Sql

/-! ## Characters that end every token -/

/-- The characters that pieces may start with. -/
def boundaries : List Char := [' ', '(', ')', ',', '.', '=', '[', '@']

/-- A text that is empty or starts with a boundary. -/
def StartsApart (text : List Char) : Prop := ∀ c ∈ text.head?, c ∈ boundaries

/-- A text starts apart with a boundary. -/
theorem startsApart_cons {c : Char} (boundary : c ∈ boundaries) (rest : List Char) :
    StartsApart (c :: rest) := by
  rintro _ ⟨⟩
  exact boundary

/-- What boundaries do not do: go on a word, an ordinal, a number or a binary literal, or
double a quote. -/
theorem boundary_ends {c : Char} (boundary : c ∈ boundaries) :
    isWordCharacter c = false ∧ c.isDigit = false ∧ Text.isHexDigit c = false ∧
      c ≠ '\'' ∧ c ≠ 'x' ∧ c ≠ 'X' := by
  simp only [boundaries, List.mem_cons, List.not_mem_nil, or_false] at boundary
  rcases boundary with rfl | rfl | rfl | rfl | rfl | rfl | rfl | rfl <;> decide

/-- A run of characters ends where a text follows whose first one is not of the run. -/
theorem takeWhile_append {α : Type} {test : α → Bool} {after : List α}
    (ends : ∀ c ∈ after.head?, test c = false) (before : List α) :
    (before ++ after).takeWhile test = before.takeWhile test ∧
      (before ++ after).dropWhile test = before.dropWhile test ++ after := by
  induction before with
  | nil =>
    cases after with
    | nil => exact ⟨rfl, rfl⟩
    | cons c rest =>
      have stops : test c = false := ends c rfl
      simp [stops]
  | cons c rest inductionHypothesis =>
    by_cases goesOn : test c = true
    · simp [goesOn, inductionHypothesis]
    · simp [goesOn]

/-! ## One token -/

/-- A quoted name is read the same whatever follows. -/
theorem quotedName_append {text name rest : List Char} (after : List Char)
    (read : quotedName text = some (name, rest)) :
    quotedName (text ++ after) = some (name, rest ++ after) := by
  induction text generalizing name with
  | nil => cases read
  | cons c tail inductionHypothesis =>
    rw [quotedName] at read
    rw [List.cons_append, quotedName]
    by_cases closing : c = ']'
    · rw [if_pos closing] at read ⊢
      cases read
      rfl
    · rw [if_neg closing] at read ⊢
      simp only [Option.map_eq_some_iff] at read
      obtain ⟨⟨inner, tail⟩, found, equal⟩ := read
      cases equal
      rw [inductionHypothesis found]
      rfl

/-- A character that is no quote is taken into a text as it is. -/
theorem textLiteral_cons {c : Char} (plain : c ≠ '\'') (rest : List Char) :
    textLiteral (c :: rest) =
      (textLiteral rest).map fun (content, after) => (c :: content, after) := by
  rw [textLiteral]
  · intro others quote
    exact absurd quote plain
  · exact plain

/-- A text literal is read the same before a text that starts apart. -/
theorem textLiteral_append {text content rest after : List Char} (apart : StartsApart after)
    (read : textLiteral text = some (content, rest)) :
    textLiteral (text ++ after) = some (content, rest ++ after) := by
  fun_induction textLiteral text generalizing content rest with
  | case1 => cases read
  | case2 tail inductionHypothesis =>
    simp only [Option.map_eq_some_iff] at read
    obtain ⟨⟨inner, tail⟩, found, equal⟩ := read
    cases equal
    simp [textLiteral, inductionHypothesis found]
  | case3 tail single =>
    cases read
    cases tail with
    | nil =>
      cases after with
      | nil => rfl
      | cons c others =>
        have noQuote : c ≠ '\'' := (boundary_ends (apart c rfl)).2.2.2.1
        simp [textLiteral, noQuote]
    | cons c others =>
      have noQuote : c ≠ '\'' := fun quote => single others (by rw [quote])
      simp [textLiteral, noQuote]
  | case4 c tail _ plain inductionHypothesis =>
    simp only [Option.map_eq_some_iff] at read
    obtain ⟨⟨inner, tail⟩, found, equal⟩ := read
    cases equal
    rw [List.cons_append, textLiteral_cons plain, inductionHypothesis found]
    rfl

variable {rest left after : List Char} {token : Token}

/-- A quoted name is read the same whatever follows. -/
theorem quotedToken_append (after : List Char) (read : quotedToken rest = .ok (token, left)) :
    quotedToken (rest ++ after) = .ok (token, left ++ after) := by
  unfold quotedToken at read ⊢
  cases found : quotedName rest with
  | none => simp [found] at read
  | some pair =>
    obtain ⟨name, tail⟩ := pair
    rw [found] at read
    cases read
    rw [quotedName_append after found]

/-- A text is read the same before a text that starts apart. -/
theorem textToken_append (apart : StartsApart after) (read : textToken rest = .ok (token, left)) :
    textToken (rest ++ after) = .ok (token, left ++ after) := by
  unfold textToken at read ⊢
  cases found : textLiteral rest with
  | none => simp [found] at read
  | some pair =>
    obtain ⟨content, tail⟩ := pair
    rw [found] at read
    cases read
    rw [textLiteral_append apart found]

/-- A placeholder is read the same before a text that starts apart. -/
theorem placeholderToken_append (apart : StartsApart after)
    (read : placeholderToken rest = .ok (token, left)) :
    placeholderToken (rest ++ after) = .ok (token, left ++ after) := by
  unfold placeholderToken at read
  split at read
  · rename_i digits
    obtain ⟨taken, dropped⟩ := takeWhile_append
      (fun c member => (boundary_ends (apart c member)).2.1) digits
    rw [List.cons_append, placeholderToken, taken, dropped]
    dsimp only at read ⊢
    cases found : Placeholder.ordinal? (digits.takeWhile Char.isDigit) with
    | none => simp [found] at read
    | some ordinal =>
      rw [found] at read
      cases read
      rfl
  · cases read

/-- A binary literal is read the same before a text that starts apart. -/
theorem hexToken_append (apart : StartsApart after) (read : hexToken rest = .ok (token, left)) :
    hexToken (rest ++ after) = .ok (token, left ++ after) := by
  obtain ⟨taken, dropped⟩ := takeWhile_append
    (fun c member => (boundary_ends (apart c member)).2.2.1) rest
  unfold hexToken at read ⊢
  rw [taken, dropped]
  cases found : Text.hexBytes? (rest.takeWhile Text.isHexDigit) with
  | none => simp [found] at read
  | some bytes =>
    rw [found] at read
    cases read
    rfl

/-- An integer is read the same before a text that starts apart. -/
theorem numberToken_append {first : Char} (apart : StartsApart after)
    (read : numberToken first rest = .ok (token, left)) :
    numberToken first (rest ++ after) = .ok (token, left ++ after) := by
  obtain ⟨taken, dropped⟩ := takeWhile_append
    (fun c member => (boundary_ends (apart c member)).2.1) rest
  unfold numberToken at read ⊢
  rw [taken, dropped]
  dsimp only at read ⊢
  generalize (if first = '-' then integer? true (rest.takeWhile Char.isDigit)
    else integer? false (first :: rest.takeWhile Char.isDigit)) = value at read ⊢
  cases value with
  | none => cases read
  | some number =>
    cases read
    rfl

/-- Whether a text starts with a character that is no boundary does not depend on what
follows it, if that starts apart. -/
theorem head?_append {c : Char} (apart : StartsApart after) (noBoundary : c ∉ boundaries) :
    (rest ++ after).head? = some c ↔ rest.head? = some c := by
  cases rest with
  | nil =>
    constructor
    · intro first
      exact absurd (apart c first) noBoundary
    · intro first
      cases first
  | cons first others => exact Iff.rfl

/-- What follows from the results of either branch follows from the result of a choice. -/
theorem ite_of_branches {α β : Type} {condition : Prop} [Decidable condition]
    {yes no result : α} {laterYes laterNo laterResult : β}
    (taken : condition → yes = result → laterYes = laterResult)
    (other : ¬ condition → no = result → laterNo = laterResult) :
    (if condition then yes else no) = result →
      (if condition then laterYes else laterNo) = laterResult := by
  intro chosen
  by_cases holds : condition
  · rw [if_pos holds] at chosen ⊢
    exact taken holds chosen
  · rw [if_neg holds] at chosen ⊢
    exact other holds chosen

/-- A token is read the same before a text that starts apart. -/
theorem lexeme_append {c : Char} (apart : StartsApart after)
    (read : lexeme c rest = .ok (token, left)) :
    lexeme c (rest ++ after) = .ok (token, left ++ after) := by
  have quote : (rest ++ after).head? = some '\'' ↔ rest.head? = some '\'' :=
    head?_append apart (by decide)
  have small : (rest ++ after).head? = some 'x' ↔ rest.head? = some 'x' :=
    head?_append apart (by decide)
  have capital : (rest ++ after).head? = some 'X' ↔ rest.head? = some 'X' :=
    head?_append apart (by decide)
  have tail {first : Char} (headed : rest.head? = some first) :
      (rest ++ after).tail = rest.tail ++ after := by
    cases rest with
    | nil => cases headed
    | cons _ _ => rfl
  unfold lexeme at read ⊢
  simp only [quote, small, capital]
  cases found : punctuation? c with
  | some mark =>
    rw [found] at read
    cases read
    rfl
  | none => ?_
  rw [found] at read
  dsimp only at read ⊢
  -- The conditions are the same on both sides, so the branches correspond one by one.
  revert read
  refine ite_of_branches (fun _ => quotedToken_append after) fun _ => ?_
  refine ite_of_branches (fun _ => placeholderToken_append apart) fun _ => ?_
  refine ite_of_branches (fun _ => textToken_append apart) fun _ => ?_
  refine ite_of_branches (fun national read => ?_) fun _ => ?_
  · rw [tail national.2]
    exact textToken_append apart read
  refine ite_of_branches (fun binary read => ?_) fun _ => ?_
  · rw [binary.2.elim tail tail]
    exact hexToken_append apart read
  refine ite_of_branches (fun _ => numberToken_append apart) fun _ => ?_
  refine ite_of_branches (fun _ read => ?_) fun _ read => ?_
  · cases read
    obtain ⟨taken, dropped⟩ := takeWhile_append
      (fun c member => (boundary_ends (apart c member)).1) rest
    rw [taken, dropped]
  · cases read

/-! ## Tokens of a whole text -/

/-- A blank before a text gives no token. -/
theorem tokens_blank (text : List Char) : tokens (' ' :: text) = tokens text := by
  rw [tokens, if_pos (by decide)]

/-- A text that starts with a token has that token before those of the rest. -/
theorem tokens_cons {c : Char} (visible : ¬ Text.isBlank c = true)
    (read : lexeme c rest = .ok (token, left)) :
    tokens (c :: rest) = (tokens left).map (token :: ·) := by
  rw [tokens, if_neg visible]
  split
  · rename_i fault failed
    rw [read] at failed
    cases failed
  · rename_i found
    rw [read] at found
    cases found
    rfl

/-- **The tokens of a text before one that starts apart** are its own, and those of the
other follow. -/
theorem tokens_append {text after : List Char} {first : List Token} (apart : StartsApart after)
    (read : tokens text = .ok first) :
    tokens (text ++ after) = (tokens after).map (first ++ ·) := by
  fun_induction tokens text generalizing first with
  | case1 =>
    cases read
    rw [List.nil_append]
    cases tokens after <;> rfl
  | case2 c rest blank inductionHypothesis =>
    rw [List.cons_append, tokens, if_pos blank]
    exact inductionHypothesis read
  | case3 c rest visible fault found => cases read
  | case4 c rest visible token left found inductionHypothesis =>
    rw [List.cons_append, tokens_cons visible (lexeme_append apart found)]
    obtain ⟨others, inner, same⟩ := Checked.map_ok read
    rw [inductionHypothesis inner, ← same]
    cases tokens after <;> rfl

/-- The tokens of two pieces, if the second one starts apart. -/
theorem tokens_pieces {text after : List Char} {first second : List Token}
    (apart : StartsApart after) (read : tokens text = .ok first)
    (readAfter : tokens after = .ok second) :
    tokens (text ++ after) = .ok (first ++ second) := by
  rw [tokens_append apart read, readAfter]
  rfl

/-- The tokens of two pieces with a blank between them. -/
theorem tokens_spaced {text after : List Char} {first second : List Token}
    (read : tokens text = .ok first) (readAfter : tokens after = .ok second) :
    tokens (text ++ ' ' :: after) = .ok (first ++ second) := by
  have apart : StartsApart (' ' :: after) := by
    rintro c ⟨⟩
    decide
  refine tokens_pieces apart read ?_
  rw [tokens_blank, readAfter]

/-! ## Texts that nothing runs on from -/

/-- A text has tokens of its own whatever follows it. -/
def Sealed (text : String) (written : List Token) : Prop :=
  ∀ suffix : List Char, tokens (text.toList ++ suffix) = (tokens suffix).map (written ++ ·)

variable {text further : String} {written others : List Token}

/-- The empty text is sealed. -/
theorem sealed_empty : Sealed "" [] := by
  intro suffix
  show tokens suffix = _
  cases tokens suffix <;> rfl

/-- The tokens of a sealed text. -/
theorem Sealed.read (sealed : Sealed text written) : tokenize text = .ok written := by
  have read := sealed []
  rw [List.append_nil, tokens] at read
  rw [tokenize, read]
  simp [Except.map]

/-- The tokens of a sealed text and of what follows it. -/
theorem Sealed.tokenize_append (sealed : Sealed text written)
    (read : tokenize further = .ok others) :
    tokenize (text ++ further) = .ok (written ++ others) := by
  rw [tokenize] at read
  rw [tokenize, String.toList_append, sealed, read]
  rfl

/-- Two sealed texts are sealed together. -/
theorem Sealed.append (sealed : Sealed text written) (sealedFurther : Sealed further others) :
    Sealed (text ++ further) (written ++ others) := by
  intro suffix
  rw [String.toList_append, List.append_assoc, sealed, sealedFurther]
  cases tokens suffix with
  | error fault => rfl
  | ok following =>
    simp only [Except.map]
    rw [List.append_assoc]

/-- A text is sealed by a sealed one that starts with a boundary. -/
theorem Sealed.close {c : Char} (sealed : Sealed further others) (boundary : c ∈ boundaries)
    (starts : further.toList.head? = some c) (read : tokenize text = .ok written) :
    Sealed (text ++ further) (written ++ others) := by
  intro suffix
  have apart : StartsApart (further.toList ++ suffix) := by
    rw [StartsApart, List.head?_append, starts]
    rintro _ ⟨⟩
    exact boundary
  rw [String.toList_append, List.append_assoc, tokens_append apart read, sealed]
  cases tokens suffix with
  | error fault => rfl
  | ok following =>
    simp only [Except.map]
    rw [List.append_assoc]

/-- A blank is sealed and gives no token. -/
theorem sealed_blank : Sealed " " [] := by
  intro suffix
  show tokens (' ' :: suffix) = _
  rw [tokens_blank]
  cases tokens suffix <;> rfl

/-- A character that is a token by itself is sealed. -/
theorem sealed_mark {c : Char} {token : Token} (visible : ¬ Text.isBlank c = true)
    (mark : punctuation? c = some token) : Sealed (String.singleton c) [token] := by
  intro suffix
  have read : lexeme c suffix = .ok (token, suffix) := by rw [lexeme, mark]
  rw [String.toList_singleton]
  exact tokens_cons visible read

/-- A text that ends with a blank is sealed. -/
theorem sealed_of_blank (start : String) (ends : text = start ++ " ")
    (read : tokenize start = .ok written) : Sealed text written := by
  have closed := sealed_blank.close (c := ' ') (by decide) rfl read
  rwa [List.append_nil, ← ends] at closed

/-- A text that ends with a boundary that is a token is sealed. -/
theorem sealed_of_mark {c : Char} {token : Token} (start : String) (written : List Token)
    (ends : text = start ++ String.singleton c) (visible : ¬ Text.isBlank c = true)
    (mark : punctuation? c = some token) (boundary : c ∈ boundaries)
    (read : tokenize start = .ok written) : Sealed text (written ++ [token]) := by
  rw [ends]
  exact (sealed_mark visible mark).close boundary (by rw [String.toList_singleton]; rfl) read

/-! ## Names in brackets and placeholders -/

/-- A name without a closing bracket ends at the one that follows it. -/
theorem quotedName_closed {name : List Char} (closed : ']' ∉ name) :
    quotedName (name ++ [']']) = some (name, []) := by
  induction name with
  | nil => rfl
  | cons c rest inductionHypothesis =>
    simp only [List.mem_cons, not_or] at closed
    rw [List.cons_append, quotedName, if_neg (Ne.symm closed.1), inductionHypothesis closed.2]
    rfl

/-- The tokens of a text that is one token. -/
theorem tokens_single {c : Char} (visible : ¬ Text.isBlank c = true)
    (read : lexeme c rest = .ok (token, [])) : tokens (c :: rest) = .ok [token] := by
  rw [tokens_cons visible read, tokens]
  rfl

/-- A name in brackets is one token. -/
theorem tokens_bracketed {name : List Char} (closed : ']' ∉ name) :
    tokens ('[' :: (name ++ [']'])) = .ok [.quoted (String.ofList name)] := by
  apply tokens_single (by decide)
  show quotedToken (name ++ [']']) = _
  rw [quotedToken, quotedName_closed closed]

/-- The characters of a name in brackets. -/
theorem toList_bracketed (name : String) :
    ("[" ++ name ++ "]").toList = '[' :: (name.toList ++ [']']) := by
  simp

/-- A text that is a name in brackets is one token. -/
theorem tokenize_bracketed {name : String} (closed : ']' ∉ name.toList) :
    tokenize ("[" ++ name ++ "]") = .ok [.quoted name] := by
  have read := tokens_bracketed closed
  rw [String.ofList_toList] at read
  rw [tokenize, toList_bracketed, read]

/-- The digits of a number are digits. -/
theorem isDigit_toString {number : Nat} {c : Char} (member : c ∈ (toString number).toList) :
    c.isDigit = true := by
  rw [Nat.toString_eq_ofList_toDigits, String.toList_ofList] at member
  exact Nat.isDigit_of_mem_toDigits (by decide) (by decide) member

/-- The digits of a number spell it. -/
theorem natural?_toString (number : Nat) :
    Text.natural? (toString number).toList = some number := by
  have digits : ((toString number).toList.all Char.isDigit) = true :=
    List.all_eq_true.2 fun c member => isDigit_toString member
  have some_digit : (toString number).toList ≠ [] := by
    rw [Nat.toString_eq_ofList_toDigits, String.toList_ofList]
    exact Nat.toDigits_ne_nil
  have value : Text.digitsValue (toString number).toList 0 = number := by
    rw [Nat.toString_eq_ofList_toDigits, String.toList_ofList]
    refine Eq.trans ?_ (Nat.ofDigitChars_ten_toDigits (n := number))
    rw [Nat.ofDigitChars_eq_foldl, Text.digitsValue]
    simp only [Nat.mul_comm]
  have spelled : ((toString number).toList.isEmpty || !(toString number).toList.all Char.isDigit) =
      false := by
    rw [digits, List.isEmpty_eq_false_iff.2 some_digit]
    rfl
  rw [Text.natural?, spelled, value]
  rfl

/-- The digits of an ordinal are read as it. -/
theorem ordinal?_toString {ordinal : Nat} (small : ordinal < Placeholder.ordinalBound) :
    Placeholder.ordinal? (toString ordinal).toList = some ordinal := by
  rw [Placeholder.ordinal?, natural?_toString]
  simp [small]

/-- The characters of a placeholder. -/
theorem toList_placeholder (ordinal : Nat) :
    (placeholder ordinal).toList = '@' :: 'p' :: (toString ordinal).toList := by
  rw [placeholder, String.toList_append]
  rfl

/-- A placeholder that digits do not go on is read by its own digits. -/
theorem placeholderToken_toString (ordinal : Nat) {after : List Char}
    (noDigit : ∀ c ∈ after.head?, c.isDigit = false) :
    placeholderToken ('p' :: ((toString ordinal).toList ++ after)) =
      match Placeholder.ordinal? (toString ordinal).toList with
      | some ordinal => .ok (.parameter ordinal, after)
      | none => .error (.badPlaceholder (toString ordinal)) := by
  have all : ∀ c ∈ (toString ordinal).toList, c.isDigit = true := fun c => isDigit_toString
  have taken := @List.takeWhile_append_of_pos Char Char.isDigit (toString ordinal).toList [] all
  have dropped := @List.dropWhile_append_of_pos Char Char.isDigit (toString ordinal).toList [] all
  rw [List.append_nil, List.takeWhile_nil, List.append_nil] at taken
  rw [List.append_nil, List.dropWhile_nil] at dropped
  obtain ⟨takenWhole, droppedWhole⟩ := takeWhile_append noDigit (toString ordinal).toList
  rw [placeholderToken, takenWhole, droppedWhole, taken, dropped, String.ofList_toList]
  rfl

/-- A placeholder is a token before a text that does not go on with its digits. -/
theorem tokens_placeholder_append {ordinal : Nat} (small : ordinal < Placeholder.ordinalBound)
    {after : List Char} (noDigit : ∀ c ∈ after.head?, c.isDigit = false) :
    tokens ((placeholder ordinal).toList ++ after) =
      (tokens after).map (.parameter ordinal :: ·) := by
  have read := placeholderToken_toString ordinal noDigit
  rw [ordinal?_toString small] at read
  rw [toList_placeholder]
  exact tokens_cons (by decide) read

/-- A placeholder is one token. -/
theorem tokens_placeholder {ordinal : Nat} (small : ordinal < Placeholder.ordinalBound) :
    tokens (placeholder ordinal).toList = .ok [.parameter ordinal] := by
  have noDigit : ∀ c ∈ ([] : List Char).head?, c.isDigit = false := nofun
  have read := tokens_placeholder_append small noDigit
  rw [List.append_nil, tokens] at read
  exact read

/-- A placeholder is a token after any text, if digits do not go on behind it. -/
theorem tokenize_placeholder_between {before after : String} {first : List Token} {ordinal : Nat}
    (read : tokenize before = .ok first) (small : ordinal < Placeholder.ordinalBound)
    (noDigit : ∀ c ∈ after.toList.head?, c.isDigit = false) :
    tokenize (before ++ placeholder ordinal ++ after) =
      (tokenize after).map fun second => first ++ .parameter ordinal :: second := by
  have apart : StartsApart ((placeholder ordinal).toList ++ after.toList) := by
    rw [toList_placeholder]
    exact startsApart_cons (by decide) _
  rw [tokenize, String.append_assoc, String.toList_append, String.toList_append,
    tokens_append apart read, tokens_placeholder_append small noDigit, tokenize]
  cases tokens after.toList <;> rfl

end RowPayload.Sql
