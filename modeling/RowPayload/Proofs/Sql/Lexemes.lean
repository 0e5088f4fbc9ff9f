import Mathlib
import RowPayload.Proofs.Sql.Tokens

/-!
# How tokens are spelled

The lexical grammar as relations, one rule a way to spell a token. A run of digits, of
hexadecimal digits or of word characters is as long as it can be, so a rule for a token that
ends with one also says what does not follow. The tokens of a text are then exactly those
that it splits into by the rules, with blanks anywhere between them.
-/

namespace RowPayload.Sql

/-- Pairs of hexadecimal digits and the bytes they spell. -/
inductive IsHex : List Char → Bytes → Prop where
  | nil : IsHex [] []
  | pair {high low : Char} {upper lower : Nat} {digits : List Char} {bytes : Bytes}
      (isUpper : Text.hexDigit? high = some upper) (isLower : Text.hexDigit? low = some lower)
      (others : IsHex digits bytes) :
      IsHex (high :: low :: digits) (UInt8.ofNat (upper * 16 + lower) :: bytes)

/-- A text with its quotes doubled. -/
def doubled (content : List Char) : List Char :=
  content.flatMap fun c => if c = '\'' then ['\'', '\''] else [c]

/-- Characters that spell a token before what follows them. -/
inductive Spells : List Char → Token → List Char → Prop where
  | mark {c : Char} {token : Token} (following : List Char)
      (isMark : punctuation? c = some token) : Spells [c] token following
  | quoted {name : List Char} (following : List Char) (closed : ']' ∉ name) :
      Spells ('[' :: (name ++ [']'])) (.quoted (String.ofList name)) following
  | parameter {digits following : List Char} {ordinal : Nat}
      (isNatural : Text.natural? digits = some ordinal)
      (small : ordinal < Placeholder.ordinalBound)
      (ends : ∀ c ∈ following.head?, c.isDigit = false) :
      Spells ('@' :: 'p' :: digits) (.parameter ordinal) following
  | text {content following : List Char} (ends : following.head? ≠ some '\'') :
      Spells ('\'' :: (doubled content ++ ['\''])) (.text (String.ofList content)) following
  | national {letter : Char} {content following : List Char}
      (isLetter : letter = 'N' ∨ letter = 'n') (ends : following.head? ≠ some '\'') :
      Spells (letter :: '\'' :: (doubled content ++ ['\''])) (.text (String.ofList content))
        following
  | hex {mark : Char} {digits following : List Char} {bytes : Bytes}
      (isMark : mark = 'x' ∨ mark = 'X') (isHex : IsHex digits bytes)
      (ends : ∀ c ∈ following.head?, Text.isHexDigit c = false) :
      Spells ('0' :: mark :: digits) (.hex bytes) following
  | positive {digits following : List Char} {number : Nat}
      (isNatural : Text.natural? digits = some number) (small : number < 2 ^ 63)
      (ends : ∀ c ∈ following.head?, c.isDigit = false)
      (noHex : digits = ['0'] → following.head? ≠ some 'x' ∧ following.head? ≠ some 'X') :
      Spells digits (.number number) following
  | negative {digits following : List Char} {number : Nat}
      (isNatural : Text.natural? digits = some number) (small : number ≤ 2 ^ 63)
      (ends : ∀ c ∈ following.head?, c.isDigit = false) :
      Spells ('-' :: digits) (.number (-number)) following
  | word {first : Char} {others following : List Char} (starts : startsWord first = true)
      (goesOn : ∀ c ∈ others, isWordCharacter c = true)
      (ends : ∀ c ∈ following.head?, isWordCharacter c = false)
      (noText : first = 'N' ∨ first = 'n' → others = [] → following.head? ≠ some '\'') :
      Spells (first :: others) (.word (String.ofList (first :: others))) following

/-- A text and the tokens it splits into. -/
inductive Splits : List Char → List Token → Prop where
  | nil : Splits [] []
  | blank {c : Char} {rest : List Char} {tokens : List Token} (isBlank : Text.isBlank c = true)
      (others : Splits rest tokens) : Splits (c :: rest) tokens
  | token {c : Char} {spelled following : List Char} {token : Token} {tokens : List Token}
      (visible : Text.isBlank c = false) (spells : Spells (c :: spelled) token following)
      (others : Splits following tokens) : Splits (c :: (spelled ++ following)) (token :: tokens)

/-! ## Runs, names, texts and bytes -/

/-- A text is a run of characters and what follows it exactly if that is where the run is
taken off. -/
theorem run_iff {test : Char → Bool} {text run following : List Char} :
    text.takeWhile test = run ∧ text.dropWhile test = following ↔
      text = run ++ following ∧ (∀ c ∈ run, test c = true) ∧
        ∀ c ∈ following.head?, test c = false := by
  constructor
  · rintro ⟨rfl, rfl⟩
    refine ⟨List.takeWhile_append_dropWhile.symm, fun c => List.mem_takeWhile_imp, ?_⟩
    intro c member
    have stops := List.head?_dropWhile_not test text
    rw [Option.mem_def.1 member] at stops
    exact stops
  · rintro ⟨rfl, all, ends⟩
    obtain ⟨taken, dropped⟩ := takeWhile_append ends run
    rw [taken, dropped, List.takeWhile_eq_self_iff.2 all, List.dropWhile_eq_nil_iff.2 all]
    exact ⟨rfl, rfl⟩

/-- The digits of a number are digits, and there is one. -/
theorem natural?_digits {digits : List Char} {number : Nat}
    (isNatural : Text.natural? digits = some number) :
    digits ≠ [] ∧ ∀ c ∈ digits, c.isDigit = true := by
  rw [Text.natural?] at isNatural
  split at isNatural
  · cases isNatural
  · rename_i spelled
    simpa using spelled

/-- A name in brackets ends at the first closing bracket. -/
theorem quotedName_iff {text name after : List Char} :
    quotedName text = some (name, after) ↔ text = name ++ ']' :: after ∧ ']' ∉ name := by
  constructor
  · intro read
    induction text generalizing name with
    | nil => cases read
    | cons c rest inductionHypothesis =>
      rw [quotedName] at read
      split at read
      · rename_i closing
        cases read
        exact ⟨by rw [closing, List.nil_append], List.not_mem_nil⟩
      · rename_i other
        obtain ⟨⟨inner, tail⟩, found, same⟩ := Option.map_eq_some_iff.1 read
        cases same
        obtain ⟨rfl, closed⟩ := inductionHypothesis found
        exact ⟨rfl, fun member => (List.mem_cons.1 member).elim (other ·.symm) closed⟩
  · rintro ⟨rfl, closed⟩
    have read := quotedName_append after (quotedName_closed closed)
    simpa using read

/-- A quote is doubled. -/
theorem doubled_quote (content : List Char) :
    doubled ('\'' :: content) = '\'' :: '\'' :: doubled content := by
  simp [doubled]

/-- A character that is no quote is not doubled. -/
theorem doubled_cons {c : Char} (plain : c ≠ '\'') (content : List Char) :
    doubled (c :: content) = c :: doubled content := by
  simp [doubled, plain]

/-- A text ends at the first quote that is not doubled. -/
theorem textLiteral_iff {text content after : List Char} :
    textLiteral text = some (content, after) ↔
      text = doubled content ++ '\'' :: after ∧ after.head? ≠ some '\'' := by
  constructor
  · intro read
    fun_induction textLiteral text generalizing content with
    | case1 => cases read
    | case2 rest inductionHypothesis =>
      obtain ⟨⟨inner, tail⟩, found, same⟩ := Option.map_eq_some_iff.1 read
      cases same
      obtain ⟨rfl, single⟩ := inductionHypothesis found
      exact ⟨by simp [doubled_quote], single⟩
    | case3 rest single =>
      cases read
      refine ⟨rfl, fun quote => ?_⟩
      obtain ⟨others, rfl⟩ : ∃ others, after = '\'' :: others := List.head?_eq_some_iff.1 quote
      exact single others rfl
    | case4 c rest _ plain inductionHypothesis =>
      obtain ⟨⟨inner, tail⟩, found, same⟩ := Option.map_eq_some_iff.1 read
      cases same
      obtain ⟨rfl, single⟩ := inductionHypothesis found
      exact ⟨by simp [doubled_cons plain], single⟩
  · rintro ⟨rfl, single⟩
    induction content with
    | nil =>
      cases after with
      | nil => rfl
      | cons c others =>
        have noQuote : c ≠ '\'' := fun quote => single (by rw [quote, List.head?_cons])
        simp [doubled, textLiteral, noQuote]
    | cons c rest inductionHypothesis =>
      by_cases quote : c = '\''
      · rw [quote, doubled_quote, List.cons_append, List.cons_append, textLiteral,
          inductionHypothesis]
        rfl
      · rw [doubled_cons quote, List.cons_append, textLiteral_cons quote, inductionHypothesis]
        rfl

/-- Bytes are read from exactly the pairs of digits that spell them. -/
theorem hexBytes?_iff {digits : List Char} {bytes : Bytes} :
    Text.hexBytes? digits = some bytes ↔ IsHex digits bytes := by
  constructor
  · intro read
    fun_induction Text.hexBytes? digits generalizing bytes with
    | case1 =>
      cases read
      exact .nil
    | case2 high low rest inductionHypothesis =>
      obtain ⟨byte, isByte, read⟩ := Option.bind_eq_some_iff.1 read
      obtain ⟨others, readOthers, read⟩ := Option.bind_eq_some_iff.1 read
      cases read
      simp only [Text.hexValue?] at isByte
      obtain ⟨upper, isUpper, isByte⟩ := Option.bind_eq_some_iff.1 isByte
      obtain ⟨lower, isLower, isByte⟩ := Option.bind_eq_some_iff.1 isByte
      cases isByte
      rw [Nat.zero_mul, Nat.zero_add]
      exact .pair isUpper isLower (inductionHypothesis readOthers)
    | case3 => cases read
  · intro isHex
    induction isHex with
    | nil => rfl
    | pair isUpper isLower _ inductionHypothesis =>
      simp [Text.hexBytes?, Text.hexValue?, isUpper, isLower, inductionHypothesis]

/-- The digits that spell bytes are hexadecimal. -/
theorem IsHex.digits {digits : List Char} {bytes : Bytes} (isHex : IsHex digits bytes) :
    ∀ c ∈ digits, Text.isHexDigit c = true := by
  induction isHex with
  | nil => exact nofun
  | pair isUpper isLower _ inductionHypothesis =>
    intro c member
    rcases List.mem_cons.1 member with rfl | member
    · rw [Text.isHexDigit, isUpper, Option.isSome_some]
    rcases List.mem_cons.1 member with rfl | member
    · rw [Text.isHexDigit, isLower, Option.isSome_some]
    · exact inductionHypothesis c member

/-! ## Kinds of tokens -/

variable {rest left : List Char} {token : Token}

/-- What is read after an opening bracket. -/
theorem quotedToken_iff :
    quotedToken rest = .ok (token, left) ↔ ∃ name, token = .quoted (String.ofList name) ∧
      rest = name ++ ']' :: left ∧ ']' ∉ name := by
  constructor
  · intro read
    unfold quotedToken at read
    split at read
    · rename_i found
      cases read
      obtain ⟨split, closed⟩ := quotedName_iff.1 found
      exact ⟨_, rfl, split, closed⟩
    · cases read
  · rintro ⟨name, rfl, split, closed⟩
    rw [quotedToken, quotedName_iff.2 ⟨split, closed⟩]

/-- What is read after an opening quote. -/
theorem textToken_iff :
    textToken rest = .ok (token, left) ↔ ∃ content, token = .text (String.ofList content) ∧
      rest = doubled content ++ '\'' :: left ∧ left.head? ≠ some '\'' := by
  constructor
  · intro read
    unfold textToken at read
    split at read
    · rename_i found
      cases read
      obtain ⟨split, single⟩ := textLiteral_iff.1 found
      exact ⟨_, rfl, split, single⟩
    · cases read
  · rintro ⟨content, rfl, split, single⟩
    rw [textToken, textLiteral_iff.2 ⟨split, single⟩]

/-- What is read after an `@`. -/
theorem placeholderToken_iff :
    placeholderToken rest = .ok (token, left) ↔ ∃ digits ordinal, token = .parameter ordinal ∧
      rest = 'p' :: (digits ++ left) ∧ Text.natural? digits = some ordinal ∧
      ordinal < Placeholder.ordinalBound ∧ ∀ c ∈ left.head?, c.isDigit = false := by
  constructor
  · intro read
    unfold placeholderToken at read
    split at read
    · rename_i others
      dsimp only at read
      split at read
      · rename_i ordinal found
        cases read
        obtain ⟨isNatural, small⟩ := Option.filter_eq_some_iff.1 found
        obtain ⟨split, _, ends⟩ := run_iff.1 ⟨rfl, rfl⟩
        exact ⟨_, ordinal, rfl, congrArg _ split, isNatural, by simpa using small, ends⟩
      · cases read
    · cases read
  · rintro ⟨digits, ordinal, rfl, rfl, isNatural, small, ends⟩
    obtain ⟨taken, dropped⟩ := run_iff.2 ⟨rfl, (natural?_digits isNatural).2, ends⟩
    have read : Placeholder.ordinal? digits = some ordinal :=
      Option.filter_eq_some_iff.2 ⟨isNatural, by simpa using small⟩
    rw [placeholderToken, taken, dropped, read]

/-- What is read after the mark of a binary literal. -/
theorem hexToken_iff :
    hexToken rest = .ok (token, left) ↔ ∃ digits bytes, token = .hex bytes ∧
      rest = digits ++ left ∧ IsHex digits bytes ∧
      ∀ c ∈ left.head?, Text.isHexDigit c = false := by
  constructor
  · intro read
    unfold hexToken at read
    split at read
    · rename_i bytes found
      cases read
      obtain ⟨split, _, ends⟩ := run_iff.1 ⟨rfl, rfl⟩
      exact ⟨_, bytes, rfl, split, hexBytes?_iff.1 found, ends⟩
    · cases read
  · rintro ⟨digits, bytes, rfl, rfl, isHex, ends⟩
    obtain ⟨taken, dropped⟩ := run_iff.2 ⟨rfl, isHex.digits, ends⟩
    rw [hexToken, taken, dropped, hexBytes?_iff.2 isHex]

/-- Digits spell an integer of 64 bits if their number, with the sign, is one. -/
theorem integer?_iff {negative : Bool} {digits : List Char} {value : Int} :
    integer? negative digits = some value ↔ ∃ number : Nat, Text.natural? digits = some number ∧
      value = (if negative then -(number : Int) else number) ∧
      -2 ^ 63 ≤ value ∧ value < 2 ^ 63 := by
  rw [integer?, Option.bind_eq_some_iff]
  constructor
  · rintro ⟨number, isNatural, read⟩
    obtain ⟨fits, same⟩ := Option.ite_none_right_eq_some.1 read
    cases same
    exact ⟨number, isNatural, rfl, fits⟩
  · rintro ⟨number, isNatural, rfl, fits⟩
    exact ⟨number, isNatural, Option.ite_none_right_eq_some.2 ⟨fits, rfl⟩⟩

/-- What is read after a minus sign. -/
theorem numberToken_minus_iff :
    numberToken '-' rest = .ok (token, left) ↔ ∃ digits, ∃ number : Nat,
      token = .number (-(number : Int)) ∧ rest = digits ++ left ∧
      Text.natural? digits = some number ∧ number ≤ 2 ^ 63 ∧ ∀ c ∈ left.head?, c.isDigit = false := by
  constructor
  · intro read
    simp only [numberToken, if_true] at read
    split at read
    · rename_i value found
      cases read
      obtain ⟨number, isNatural, rfl, small, _⟩ := integer?_iff.1 found
      obtain ⟨split, _, ends⟩ := run_iff.1 ⟨rfl, rfl⟩
      simp only [if_true] at small
      exact ⟨_, number, rfl, split, isNatural, by omega, ends⟩
    · cases read
  · rintro ⟨digits, number, rfl, rfl, isNatural, small, ends⟩
    obtain ⟨taken, dropped⟩ := run_iff.2 ⟨rfl, (natural?_digits isNatural).2, ends⟩
    have read : integer? true digits = some (-(number : Int)) :=
      integer?_iff.2 ⟨number, isNatural, rfl, by omega, by omega⟩
    simp only [numberToken, if_true, taken, dropped, read]

/-- What is read after the first digit of an integer. -/
theorem numberToken_digit_iff {first : Char} (unsigned : first ≠ '-') :
    numberToken first rest = .ok (token, left) ↔ ∃ digits, ∃ number : Nat,
      token = .number number ∧ rest = digits ++ left ∧
      Text.natural? (first :: digits) = some number ∧ number < 2 ^ 63 ∧
      ∀ c ∈ left.head?, c.isDigit = false := by
  constructor
  · intro read
    simp only [numberToken, if_neg unsigned] at read
    split at read
    · rename_i value found
      cases read
      obtain ⟨number, isNatural, rfl, _, small⟩ := integer?_iff.1 found
      obtain ⟨split, _, ends⟩ := run_iff.1 ⟨rfl, rfl⟩
      simp only [Bool.false_eq_true, if_false] at small
      exact ⟨_, number, rfl, split, isNatural, by omega, ends⟩
    · cases read
  · rintro ⟨digits, number, rfl, rfl, isNatural, small, ends⟩
    have digital : ∀ c ∈ digits, c.isDigit = true := fun c member =>
      (natural?_digits isNatural).2 c (List.mem_cons_of_mem _ member)
    obtain ⟨taken, dropped⟩ := run_iff.2 ⟨rfl, digital, ends⟩
    have read : integer? false (first :: digits) = some (number : Int) :=
      integer?_iff.2 ⟨number, isNatural, rfl, by omega, by omega⟩
    simp only [numberToken, if_neg unsigned, taken, dropped, read]

/-! ## Which kind a first character starts -/

/-- A character of a kind that no mark is of is no mark. -/
theorem punctuation?_eq_none {test : Char → Bool} {c : Char} (holds : test c = true)
    (noMark : ['(', ')', ',', '.', '=', ';'].any test = false) : punctuation? c = none := by
  rw [List.any_eq_false] at noMark
  unfold punctuation?
  split <;> first | rfl | exact absurd holds (noMark _ (by simp))

/-- The digits stand in a row. -/
theorem bounds_of_isDigit {c : Char} (isDigit : c.isDigit = true) :
    48 ≤ c.toNat ∧ c.toNat ≤ 57 := by
  simp only [Char.isDigit, Bool.and_eq_true, decide_eq_true_eq, UInt32.le_iff_toNat_le,
    ge_iff_le] at isDigit
  exact isDigit

/-- A character that starts a word is no digit. -/
theorem isDigit_of_startsWord {c : Char} (starts : startsWord c = true) : c.isDigit = false := by
  by_contra isDigit
  have bounds := bounds_of_isDigit (Bool.not_eq_false _ |>.mp isDigit)
  have noScore : c ≠ '_' := by
    rintro rfl
    exact absurd bounds.2 (by decide)
  have small : c.toNat < 128 := by omega
  have alphabetic : c.isAlpha = true := by
    simpa [startsWord, Text.isLetter, small, noScore] using starts
  simp only [Char.isAlpha, Char.isUpper, Char.isLower, Bool.or_eq_true, Bool.and_eq_true,
    decide_eq_true_eq, UInt32.le_iff_toNat_le, ge_iff_le] at alphabetic
  have numbered : c.val.toNat = c.toNat := rfl
  rw [numbered] at alphabetic
  rcases alphabetic with upper | lower
  · exact absurd upper.1 (by simp; omega)
  · exact absurd lower.1 (by simp; omega)

/-- An integer starts with a digit, unless that opens a binary literal. -/
theorem lexeme_digit {c : Char} (isDigit : c.isDigit = true)
    (noHex : c = '0' → rest.head? ≠ some 'x' ∧ rest.head? ≠ some 'X') :
    lexeme c rest = numberToken c rest := by
  have noMark : punctuation? c = none := punctuation?_eq_none isDigit (by decide)
  have other {special : Char} (noDigit : special.isDigit = false) : c ≠ special := by
    rintro rfl
    rw [noDigit] at isDigit
    cases isDigit
  have noLetter : ¬ ((c = 'N' ∨ c = 'n') ∧ rest.head? = some '\'') := by
    rintro ⟨isN, _⟩
    exact isN.elim (other (by decide)) (other (by decide))
  have plain : ¬ (c = '0' ∧ (rest.head? = some 'x' ∨ rest.head? = some 'X')) := by
    rintro ⟨zero, mark⟩
    exact mark.elim (noHex zero).1 (noHex zero).2
  rw [lexeme, noMark]
  dsimp only
  rw [if_neg (other (by decide)), if_neg (other (by decide)), if_neg (other (by decide)),
    if_neg noLetter, if_neg plain, if_pos (.inl isDigit)]

/-- A word starts with a letter or an underscore, unless that opens a text. -/
theorem lexeme_word {c : Char} (starts : startsWord c = true)
    (noText : c = 'N' ∨ c = 'n' → rest.head? ≠ some '\'') :
    lexeme c rest = .ok (.word (String.ofList (c :: rest.takeWhile isWordCharacter)),
      rest.dropWhile isWordCharacter) := by
  have noMark : punctuation? c = none := punctuation?_eq_none starts (by decide)
  have other {special : Char} (noWord : startsWord special = false) : c ≠ special := by
    rintro rfl
    rw [noWord] at starts
    cases starts
  have noLetter : ¬ ((c = 'N' ∨ c = 'n') ∧ rest.head? = some '\'') := fun quoted =>
    noText quoted.1 quoted.2
  have noNumber : ¬ (c.isDigit = true ∨ c = '-') := by
    rw [isDigit_of_startsWord starts]
    exact fun number => number.elim nofun (other (by decide))
  rw [lexeme, noMark]
  dsimp only
  rw [if_neg (other (by decide)), if_neg (other (by decide)), if_neg (other (by decide)),
    if_neg noLetter, if_neg fun hex => other (by decide) hex.1, if_neg noNumber, if_pos starts]

/-- What is read as a token spells it there. -/
theorem spells_of_lexeme {c : Char} (read : lexeme c rest = .ok (token, left)) :
    ∃ spelled, rest = spelled ++ left ∧ Spells (c :: spelled) token left := by
  unfold lexeme at read
  split at read
  · rename_i mark
    cases read
    exact ⟨[], rfl, .mark _ mark⟩
  split at read
  · rename_i bracket
    obtain ⟨name, rfl, rfl, closed⟩ := quotedToken_iff.1 read
    exact ⟨name ++ [']'], by simp, bracket ▸ .quoted _ closed⟩
  split at read
  · rename_i at_
    obtain ⟨digits, ordinal, rfl, rfl, isNatural, small, ends⟩ := placeholderToken_iff.1 read
    exact ⟨'p' :: digits, rfl, at_ ▸ .parameter isNatural small ends⟩
  split at read
  · rename_i quote
    obtain ⟨content, rfl, rfl, single⟩ := textToken_iff.1 read
    exact ⟨doubled content ++ ['\''], by simp, quote ▸ .text single⟩
  split at read
  · rename_i national
    obtain ⟨others, rfl⟩ := List.head?_eq_some_iff.1 national.2
    obtain ⟨content, rfl, split, single⟩ := textToken_iff.1 read
    rw [List.tail_cons] at split
    subst split
    exact ⟨'\'' :: (doubled content ++ ['\'']), by simp, .national national.1 single⟩
  split at read
  · rename_i binary
    obtain ⟨zero, mark⟩ := binary
    obtain ⟨digits, bytes, rfl, split, isHex, ends⟩ := hexToken_iff.1 read
    obtain ⟨first, starts, isMark⟩ : ∃ first, rest.head? = some first ∧
        (first = 'x' ∨ first = 'X') :=
      mark.elim (fun small => ⟨_, small, .inl rfl⟩) fun capital => ⟨_, capital, .inr rfl⟩
    obtain ⟨others, rfl⟩ := List.head?_eq_some_iff.1 starts
    rw [List.tail_cons] at split
    subst split
    exact ⟨first :: digits, rfl, zero ▸ .hex isMark isHex ends⟩
  split at read
  · rename_i noHex number
    by_cases minus : c = '-'
    · subst minus
      obtain ⟨digits, number, rfl, rfl, isNatural, small, ends⟩ := numberToken_minus_iff.1 read
      exact ⟨digits, rfl, .negative isNatural small ends⟩
    · obtain ⟨digits, number, rfl, rfl, isNatural, small, ends⟩ :=
        (numberToken_digit_iff minus).1 read
      refine ⟨digits, rfl, .positive isNatural small ends fun zero => ?_⟩
      obtain ⟨rfl, rfl⟩ := List.cons.inj zero
      exact ⟨fun mark => noHex ⟨rfl, .inl mark⟩, fun mark => noHex ⟨rfl, .inr mark⟩⟩
  split at read
  · rename_i noText _ _ starts
    cases read
    obtain ⟨split, goesOn, ends⟩ := run_iff.1 ⟨rfl, rfl⟩
    refine ⟨_, split, .word starts goesOn ends fun letter alone quote => ?_⟩
    rw [split, alone] at noText
    exact noText ⟨letter, quote⟩
  · cases read

/-- What spells a token in a text is read as that token. -/
theorem lexeme_of_spells {c : Char} {spelled : List Char}
    (spells : Spells (c :: spelled) token left) : lexeme c (spelled ++ left) = .ok (token, left) := by
  generalize whole : c :: spelled = characters at spells
  cases spells with
  | mark _ isMark =>
    obtain ⟨rfl, rfl⟩ := List.cons.inj whole
    rw [lexeme, isMark]
    rfl
  | quoted _ closed =>
    obtain ⟨rfl, rfl⟩ := List.cons.inj whole
    exact quotedToken_iff.2 ⟨_, rfl, by simp, closed⟩
  | parameter isNatural small ends =>
    obtain ⟨rfl, rfl⟩ := List.cons.inj whole
    exact placeholderToken_iff.2 ⟨_, _, rfl, rfl, isNatural, small, ends⟩
  | text single =>
    obtain ⟨rfl, rfl⟩ := List.cons.inj whole
    exact textToken_iff.2 ⟨_, rfl, by simp, single⟩
  | @national letter content following isLetter single =>
    obtain ⟨rfl, rfl⟩ := List.cons.inj whole
    have read : textToken (doubled content ++ ['\''] ++ left) = .ok (_, left) :=
      textToken_iff.2 ⟨content, rfl, by simp, single⟩
    rcases isLetter with rfl | rfl <;> exact read
  | @hex mark digits following bytes isMark isHex ends =>
    obtain ⟨rfl, rfl⟩ := List.cons.inj whole
    have read : hexToken (digits ++ left) = .ok (_, left) :=
      hexToken_iff.2 ⟨digits, bytes, rfl, rfl, isHex, ends⟩
    rcases isMark with rfl | rfl <;> exact read
  | @positive digits following number isNatural small ends noHex =>
    subst whole
    have isDigit := (natural?_digits isNatural).2 c List.mem_cons_self
    have unsigned : c ≠ '-' := by
      rintro rfl
      cases isDigit
    rw [lexeme_digit isDigit]
    · exact (numberToken_digit_iff unsigned).2 ⟨_, _, rfl, rfl, isNatural, small, ends⟩
    · rintro rfl
      cases spelled with
      | nil => exact noHex rfl
      | cons second others =>
        have next := (natural?_digits isNatural).2 second (by simp)
        constructor <;> rintro ⟨⟩ <;> cases next
  | negative isNatural small ends =>
    obtain ⟨rfl, rfl⟩ := List.cons.inj whole
    exact numberToken_minus_iff.2 ⟨_, _, rfl, rfl, isNatural, small, ends⟩
  | @word first others following starts goesOn ends noText =>
    obtain ⟨rfl, rfl⟩ := List.cons.inj whole
    obtain ⟨taken, dropped⟩ := run_iff.2 ⟨rfl, goesOn, ends⟩
    rw [lexeme_word starts, taken, dropped]
    intro letter quote
    cases spelled with
    | nil => exact noText letter rfl quote
    | cons second others =>
      cases quote
      exact absurd (goesOn _ List.mem_cons_self) (by decide)

/-- **A token is read off a text** exactly if the text starts with what spells it there. -/
theorem lexeme_iff {c : Char} :
    lexeme c rest = .ok (token, left) ↔
      ∃ spelled, rest = spelled ++ left ∧ Spells (c :: spelled) token left := by
  constructor
  · exact spells_of_lexeme
  · rintro ⟨spelled, rfl, spells⟩
    exact lexeme_of_spells spells

/-- **The tokens of a text** are those that it splits into. -/
theorem tokenize_iff {text : String} {all : List Token} :
    tokenize text = .ok all ↔ Splits text.toList all := by
  rw [tokenize]
  generalize text.toList = characters
  constructor
  · intro read
    fun_induction tokens characters generalizing all with
    | case1 =>
      cases read
      exact .nil
    | case2 c rest blank inductionHypothesis => exact .blank blank (inductionHypothesis read)
    | case3 => cases read
    | case4 c rest visible token left found inductionHypothesis =>
      obtain ⟨others, readOthers, rfl⟩ := Checked.map_ok read
      obtain ⟨spelled, rfl, spells⟩ := lexeme_iff.1 found
      exact .token (by simpa using visible) spells (inductionHypothesis readOthers)
  · intro splits
    induction splits with
    | nil => rw [tokens]
    | blank isBlank _ inductionHypothesis => rw [tokens, if_pos isBlank, inductionHypothesis]
    | token visible spells _ inductionHypothesis =>
      rw [tokens_cons (by simp [visible]) (lexeme_iff.2 ⟨_, rfl, spells⟩), inductionHypothesis]
      rfl

/-- A word is spelled by its letters. -/
theorem Spells.of_word {spelled following : List Char} {letters : String}
    (spells : Spells spelled (.word letters) following) :
    spelled = letters.toList ∧ ∀ c ∈ letters.toList, isWordCharacter c = true := by
  cases spells with
  | mark _ isMark =>
    unfold punctuation? at isMark
    split at isMark <;> cases isMark
  | @word first others _ starts goesOn =>
    have firstGoesOn : isWordCharacter first = true := by
      simp only [startsWord, isWordCharacter, Bool.or_eq_true] at starts ⊢
      exact starts.elim (fun letter => .inl (.inl letter)) .inr
    rw [String.toList_ofList]
    exact ⟨rfl, List.forall_mem_cons.2 ⟨firstGoesOn, goesOn⟩⟩

/-- A quoted name is spelled in brackets. -/
theorem Spells.of_quoted {spelled following : List Char} {name : String}
    (spells : Spells spelled (.quoted name) following) :
    spelled = '[' :: (name.toList ++ [']']) ∧ ']' ∉ name.toList := by
  cases spells with
  | mark _ isMark =>
    unfold punctuation? at isMark
    split at isMark <;> cases isMark
  | quoted _ closed =>
    rw [String.toList_ofList]
    exact ⟨rfl, closed⟩

/-- A dot is spelled by itself. -/
theorem Spells.of_dot {spelled following : List Char} (spells : Spells spelled .dot following) :
    spelled = ['.'] := by
  cases spells with
  | mark _ isMark =>
    unfold punctuation? at isMark
    split at isMark <;> cases isMark
    rfl

/-- A text without tokens is blank. -/
theorem Splits.blank_of_nil {text : List Char} (splits : Splits text []) :
    ∀ c ∈ text, Text.isBlank c = true := by
  generalize none : ([] : List Token) = written at splits
  induction splits with
  | nil => exact nofun
  | blank isBlank _ inductionHypothesis =>
    exact List.forall_mem_cons.2 ⟨isBlank, inductionHypothesis none⟩
  | token => cases none

/-- Before the first token of a text there are blanks, and after it the others. -/
theorem Splits.uncons {text : List Char} {first : Token} {others : List Token}
    (splits : Splits text (first :: others)) :
    ∃ before spelled following, text = before ++ (spelled ++ following) ∧
      (∀ c ∈ before, Text.isBlank c = true) ∧ Spells spelled first following ∧
      Splits following others := by
  generalize some_token : first :: others = written at splits
  induction splits with
  | nil => cases some_token
  | blank isBlank _ inductionHypothesis =>
    obtain ⟨before, spelled, following, rfl, blank, spells, rest⟩ :=
      inductionHypothesis some_token
    exact ⟨_ :: before, spelled, following, rfl, List.forall_mem_cons.2 ⟨isBlank, blank⟩, spells,
      rest⟩
  | token _ spells rest =>
    cases some_token
    exact ⟨[], _, _, rfl, nofun, spells, rest⟩

end RowPayload.Sql
