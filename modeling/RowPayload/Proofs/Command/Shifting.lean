import Mathlib
import RowPayload.Proofs.Sql.Lexemes

/-!
# Tokens of a shifted text

Shifting a text changes nothing but runs of digits, and every run into another one, so the
lexer goes through the shifted text in step with the text itself: what it reads of the one are
the tokens that it reads of the other, shifted. But it reads more than placeholders. A name in
brackets or a text between quotes may have an `@p` with digits in it, and shifting, which does
not know about tokens, shifts it there as well.
-/

namespace RowPayload

namespace Placeholder

/-! ## Digits -/

/-- The digits of a shifted ordinal spell the shifted ordinal, and other digits still none. -/
theorem ordinal?_shiftDigits (offset : Nat) (digits : List Char) :
    ordinal? (shiftDigits offset digits) =
      (ordinal? digits).map fun ordinal => (ordinal + offset) % ordinalBound := by
  unfold shiftDigits
  cases spelled : ordinal? digits with
  | none => exact spelled
  | some ordinal => exact Sql.ordinal?_toString (Nat.mod_lt _ (by decide))

/-- Digits are shifted to digits. -/
theorem isDigit_shiftDigits (offset : Nat) {digits : List Char}
    (all : ∀ c ∈ digits, c.isDigit = true) :
    ∀ c ∈ shiftDigits offset digits, c.isDigit = true := by
  unfold shiftDigits
  split
  · exact fun c => Sql.isDigit_toString
  · exact all

/-! ## Texts -/

variable {offset : Nat}

/-- A character does not start an `@p` if the scan passes over it. -/
theorem head?_ne_of_passed {c : Char} {rest : List Char}
    (passed : ∀ others, c = '@' → rest = 'p' :: others → False) :
    c = '@' → rest.head? ≠ some 'p' := by
  intro sign starts
  obtain ⟨others, rfl⟩ := List.head?_eq_some_iff.1 starts
  exact passed others sign rfl

/-- A character that does not start a placeholder stays. -/
theorem shiftCharacters_cons {c : Char} {rest : List Char}
    (plain : c = '@' → rest.head? ≠ some 'p') :
    shiftCharacters offset (c :: rest) = c :: shiftCharacters offset rest := by
  rw [shiftCharacters]
  rintro others rfl rfl
  exact plain rfl rfl

/-- A character that is no `@` stays. -/
theorem shiftCharacters_other {c : Char} (other : c ≠ '@') (rest : List Char) :
    shiftCharacters offset (c :: rest) = c :: shiftCharacters offset rest :=
  shiftCharacters_cons fun same => absurd same other

/-- A text begins with the same character after shifting it. -/
theorem head?_shiftCharacters (offset : Nat) (text : List Char) :
    (shiftCharacters offset text).head? = text.head? := by
  fun_cases shiftCharacters offset text with
  | case1 => rfl
  | case2 rest => rfl
  | case3 c rest plain => rfl

/-- The digits after an `@p` end in a shifted text where they end in the text. -/
theorem digits_shifted (offset : Nat) (rest : List Char) :
    (shiftDigits offset (rest.takeWhile Char.isDigit) ++
        shiftCharacters offset (rest.dropWhile Char.isDigit)).takeWhile Char.isDigit =
      shiftDigits offset (rest.takeWhile Char.isDigit) ∧
    (shiftDigits offset (rest.takeWhile Char.isDigit) ++
        shiftCharacters offset (rest.dropWhile Char.isDigit)).dropWhile Char.isDigit =
      shiftCharacters offset (rest.dropWhile Char.isDigit) := by
  have digits : ∀ c ∈ rest.takeWhile Char.isDigit, c.isDigit = true := fun _ =>
    List.mem_takeWhile_imp
  refine Sql.run_iff.2 ⟨rfl, isDigit_shiftDigits offset digits, ?_⟩
  rw [head?_shiftCharacters]
  exact (Sql.run_iff.1 ⟨rfl, rfl⟩).2.2

/-- A run of characters among which there is no `@` is followed by the shifted rest. -/
theorem run_shiftCharacters (offset : Nat) {test : Char → Bool} (ends : test '@' = false)
    (text : List Char) :
    (shiftCharacters offset text).takeWhile test = text.takeWhile test ∧
      (shiftCharacters offset text).dropWhile test =
        shiftCharacters offset (text.dropWhile test) := by
  induction text with
  | nil => simp [shiftCharacters]
  | cons c rest inductionHypothesis =>
    cases holds : test c with
    | true =>
      have other : c ≠ '@' := by
        rintro rfl
        rw [ends] at holds
        cases holds
      simp only [shiftCharacters_other other, List.takeWhile_cons_of_pos holds,
        List.dropWhile_cons_of_pos holds, inductionHypothesis, and_self]
    | false =>
      obtain ⟨tail, shifted⟩ := List.head?_eq_some_iff.1 (head?_shiftCharacters offset
        (c :: rest))
      simp [shifted, holds]

/-- Two texts are shifted one by one, if the second one does not go on with a placeholder. -/
theorem shiftCharacters_append {text after : List Char}
    (apart : ∀ c ∈ after.head?, c ≠ 'p' ∧ c.isDigit = false) :
    shiftCharacters offset (text ++ after) =
      shiftCharacters offset text ++ shiftCharacters offset after := by
  fun_induction shiftCharacters offset text with
  | case1 => rfl
  | case2 rest inductionHypothesis =>
    obtain ⟨taken, dropped⟩ := Sql.takeWhile_append (fun c member => (apart c member).2) rest
    rw [List.cons_append, List.cons_append, shiftCharacters, taken, dropped, inductionHypothesis]
    simp
  | case3 c rest plain inductionHypothesis =>
    rw [List.cons_append, shiftCharacters_cons, inductionHypothesis, List.cons_append]
    rintro rfl starts
    cases rest with
    | nil => exact (apart 'p' starts).1 rfl
    | cons second others =>
      cases starts
      exact plain _ rfl rfl

/-- A character that is no digit is in a shifted text where it was in the text. -/
theorem mem_shiftCharacters {c : Char} (noDigit : c.isDigit = false) {text : List Char} :
    c ∈ shiftCharacters offset text ↔ c ∈ text := by
  have absent {digits : List Char} (all : ∀ c ∈ digits, c.isDigit = true) : c ∉ digits := by
    intro member
    rw [all c member] at noDigit
    cases noDigit
  fun_induction shiftCharacters offset text with
  | case1 => rfl
  | case2 rest inductionHypothesis =>
    have run : ∀ c ∈ rest.takeWhile Char.isDigit, c.isDigit = true := fun _ =>
      List.mem_takeWhile_imp
    have parts := @List.takeWhile_append_dropWhile Char Char.isDigit rest
    conv => rhs; rw [← parts]
    simp only [List.cons_append, List.mem_cons, List.mem_append, inductionHypothesis,
      absent (isDigit_shiftDigits offset run), absent run, false_or]
  | case3 c rest plain inductionHypothesis =>
    simp only [List.mem_cons, inductionHypothesis]

end Placeholder

namespace Sql

open Placeholder (shiftCharacters shiftDigits shiftCharacters_append shiftCharacters_other
  shiftCharacters_cons mem_shiftCharacters head?_shiftCharacters run_shiftCharacters
  isDigit_shiftDigits)

/-! ## Names and texts -/

/-- A token with the placeholders shifted that are written in it: itself, if it is one, and all
in its name or text. -/
def Token.shifted (offset : Nat) : Token → Token
  | .parameter ordinal => .parameter ((ordinal + offset) % Placeholder.ordinalBound)
  | .quoted name => .quoted (Placeholder.shift offset name)
  | .text content => .text (Placeholder.shift offset content)
  | other => other

variable {offset : Nat}

/-- A token and what follows it, shifted. -/
def shiftedRead (offset : Nat) (read : Token × List Char) : Token × List Char :=
  (read.1.shifted offset, shiftCharacters offset read.2)

/-- A name is closed if there is a closing bracket. -/
theorem quotedName_eq_none {text : List Char} : quotedName text = none ↔ ']' ∉ text := by
  constructor
  · intro unclosed member
    obtain ⟨name, after, rfl, closed⟩ := List.eq_append_cons_of_mem member
    rw [quotedName_iff.2 ⟨rfl, closed⟩] at unclosed
    cases unclosed
  · intro absent
    cases read : quotedName text with
    | none => rfl
    | some pair =>
      obtain ⟨rfl, -⟩ := quotedName_iff.1 read
      exact absurd (by simp) absent

/-- A name is closed in a shifted text where it is in the text. -/
theorem quotedName_shift (text : List Char) :
    quotedName (shiftCharacters offset text) = (quotedName text).map fun (name, after) =>
      (shiftCharacters offset name, shiftCharacters offset after) := by
  cases read : quotedName text with
  | none =>
    rw [quotedName_eq_none] at read
    rw [quotedName_eq_none.2 (by rwa [mem_shiftCharacters (by decide)])]
    rfl
  | some pair =>
    obtain ⟨rfl, closed⟩ := quotedName_iff.1 read
    refine quotedName_iff.2 ⟨?_, by rwa [mem_shiftCharacters (by decide)]⟩
    rw [shiftCharacters_append, shiftCharacters_other (by decide)]
    rintro _ ⟨⟩
    decide

/-- Doubling quotes leaves a run of other characters alone. -/
theorem run_doubled {test : Char → Bool} (ends : test '\'' = false) (content : List Char) :
    (doubled content).takeWhile test = content.takeWhile test ∧
      (doubled content).dropWhile test = doubled (content.dropWhile test) := by
  induction content with
  | nil => exact ⟨rfl, rfl⟩
  | cons c rest inductionHypothesis =>
    by_cases quote : c = '\''
    · subst quote
      simp [doubled_quote, ends]
    · rw [doubled_cons quote]
      cases holds : test c with
      | true => simp [holds, inductionHypothesis]
      | false => simp [holds, doubled_cons quote]

/-- There is no quote to double. -/
theorem doubled_plain {content : List Char} (plain : '\'' ∉ content) :
    doubled content = content := by
  induction content with
  | nil => rfl
  | cons c rest inductionHypothesis =>
    rw [List.mem_cons, not_or] at plain
    rw [doubled_cons fun quote => plain.1 quote.symm, inductionHypothesis plain.2]

/-- Doubling quotes begins a text with the same character. -/
theorem head?_doubled (content : List Char) : (doubled content).head? = content.head? := by
  cases content with
  | nil => rfl
  | cons c rest =>
    by_cases quote : c = '\''
    · rw [quote, doubled_quote, List.head?_cons, List.head?_cons]
    · rw [doubled_cons quote, List.head?_cons, List.head?_cons]

/-- Quotes are doubled in a shifted text as in the text. -/
theorem doubled_shift (content : List Char) :
    shiftCharacters offset (doubled content) = doubled (shiftCharacters offset content) := by
  fun_induction shiftCharacters offset content with
  | case1 => rw [doubled, List.flatMap_nil, shiftCharacters]
  | case2 rest inductionHypothesis =>
    obtain ⟨taken, dropped⟩ := run_doubled (show Char.isDigit '\'' = false by decide) rest
    have digits : '\'' ∉ shiftDigits offset (rest.takeWhile Char.isDigit) := by
      intro member
      have isDigit := isDigit_shiftDigits offset (fun _ => List.mem_takeWhile_imp) _ member
      exact absurd isDigit (by decide)
    have shifted : '\'' ∉ '@' :: 'p' :: shiftDigits offset (rest.takeWhile Char.isDigit) := by
      simpa using digits
    rw [doubled_cons (by decide), doubled_cons (by decide), shiftCharacters, taken, dropped,
      inductionHypothesis]
    conv => lhs; rw [← doubled_plain shifted]
    exact List.flatMap_append.symm
  | case3 c rest plain inductionHypothesis =>
    by_cases quote : c = '\''
    · rw [quote, doubled_quote, doubled_quote, shiftCharacters_other (by decide),
        shiftCharacters_other (by decide), inductionHypothesis]
    · rw [doubled_cons quote, doubled_cons quote, shiftCharacters_cons, inductionHypothesis]
      rw [head?_doubled]
      exact Placeholder.head?_ne_of_passed plain

/-- A text is not closed if its quotes are all doubled. -/
theorem textLiteral_eq_none {text : List Char} :
    textLiteral text = none ↔ ∃ content, text = doubled content := by
  constructor
  · intro unclosed
    fun_induction textLiteral text with
    | case1 => exact ⟨[], rfl⟩
    | case2 rest inductionHypothesis =>
      obtain ⟨content, rfl⟩ := inductionHypothesis (by simpa using unclosed)
      exact ⟨'\'' :: content, (doubled_quote content).symm⟩
    | case3 rest single => cases unclosed
    | case4 c rest noPair plain inductionHypothesis =>
      obtain ⟨content, rfl⟩ := inductionHypothesis (by simpa using unclosed)
      exact ⟨c :: content, (doubled_cons plain content).symm⟩
  · rintro ⟨content, rfl⟩
    induction content with
    | nil => rfl
    | cons c rest inductionHypothesis =>
      by_cases quote : c = '\''
      · rw [quote, doubled_quote, textLiteral, inductionHypothesis]
        rfl
      · rw [doubled_cons quote, textLiteral_cons quote, inductionHypothesis]
        rfl

/-- A text is closed in a shifted text where it is in the text. -/
theorem textLiteral_shift (text : List Char) :
    textLiteral (shiftCharacters offset text) = (textLiteral text).map fun (content, after) =>
      (shiftCharacters offset content, shiftCharacters offset after) := by
  cases read : textLiteral text with
  | none =>
    obtain ⟨content, rfl⟩ := textLiteral_eq_none.1 read
    exact textLiteral_eq_none.2 ⟨_, doubled_shift content⟩
  | some pair =>
    obtain ⟨rfl, single⟩ := textLiteral_iff.1 read
    refine textLiteral_iff.2 ⟨?_, by rwa [head?_shiftCharacters]⟩
    rw [shiftCharacters_append, shiftCharacters_other (by decide), doubled_shift]
    rintro _ ⟨⟩
    decide

/-! ## One token -/

/-- A quoted name is read in step. -/
theorem quotedToken_shift (positive : offset ≠ 0) (rest : List Char) :
    quotedToken (shiftCharacters offset rest) =
      (quotedToken rest).map (shiftedRead offset) := by
  rw [quotedToken, quotedToken, quotedName_shift]
  cases quotedName rest with
  | none => rfl
  | some pair => simp [Except.map, shiftedRead, Token.shifted, Placeholder.shift, positive]

/-- A text is read in step. -/
theorem textToken_shift (positive : offset ≠ 0) (rest : List Char) :
    textToken (shiftCharacters offset rest) = (textToken rest).map (shiftedRead offset) := by
  rw [textToken, textToken, textLiteral_shift]
  cases textLiteral rest with
  | none => rfl
  | some pair => simp [Except.map, shiftedRead, Token.shifted, Placeholder.shift, positive]

/-- An `@` opens a placeholder. -/
theorem lexeme_at (rest : List Char) : lexeme '@' rest = placeholderToken rest := rfl

/-- A placeholder is read as the shifted one. -/
theorem placeholderToken_shift (offset : Nat) (rest : List Char) :
    placeholderToken ('p' :: (shiftDigits offset (rest.takeWhile Char.isDigit) ++
        shiftCharacters offset (rest.dropWhile Char.isDigit))) =
      (placeholderToken ('p' :: rest)).map (shiftedRead offset) := by
  obtain ⟨taken, dropped⟩ := Placeholder.digits_shifted offset rest
  rw [placeholderToken, placeholderToken, taken, dropped, Placeholder.ordinal?_shiftDigits]
  cases spelled : Placeholder.ordinal? (rest.takeWhile Char.isDigit) with
  | none =>
    rw [shiftDigits, spelled]
    rfl
  | some ordinal => rfl

/-- A binary literal is read in step. -/
theorem hexToken_shift (rest : List Char) :
    hexToken (shiftCharacters offset rest) = (hexToken rest).map (shiftedRead offset) := by
  obtain ⟨taken, dropped⟩ := run_shiftCharacters offset
    (show Text.isHexDigit '@' = false by decide) rest
  rw [hexToken, hexToken, taken, dropped]
  cases Text.hexBytes? (rest.takeWhile Text.isHexDigit) <;> rfl

/-- An integer is read in step. -/
theorem numberToken_shift (first : Char) (rest : List Char) :
    numberToken first (shiftCharacters offset rest) =
      (numberToken first rest).map (shiftedRead offset) := by
  obtain ⟨taken, dropped⟩ := run_shiftCharacters offset
    (show Char.isDigit '@' = false by decide) rest
  rw [numberToken, numberToken, taken, dropped]
  generalize (if first = '-' then integer? true (rest.takeWhile Char.isDigit)
    else integer? false (first :: rest.takeWhile Char.isDigit)) = value
  cases value <;> rfl

/-- What is read in a choice is read in step, if it is in both branches. -/
theorem shift_of_branches {condition : Prop} [Decidable condition]
    {yes no shiftedYes shiftedNo : Except SyntaxFault (Token × List Char)}
    (taken : condition → shiftedYes = yes.map (shiftedRead offset))
    (other : ¬ condition → shiftedNo = no.map (shiftedRead offset)) :
    (if condition then shiftedYes else shiftedNo) =
      (if condition then yes else no).map (shiftedRead offset) := by
  by_cases holds : condition
  · rw [if_pos holds, if_pos holds, taken holds]
  · rw [if_neg holds, if_neg holds, other holds]

/-- A token that does not start with an `@` is read in step. -/
theorem lexeme_shift_other (positive : offset ≠ 0) {c : Char} (other : c ≠ '@')
    (rest : List Char) :
    lexeme c (shiftCharacters offset rest) = (lexeme c rest).map (shiftedRead offset) := by
  have tail {first : Char} (headed : rest.head? = some first) (plain : first ≠ '@') :
      (shiftCharacters offset rest).tail = shiftCharacters offset rest.tail := by
    obtain ⟨others, rfl⟩ := List.head?_eq_some_iff.1 headed
    rw [shiftCharacters_other plain, List.tail_cons, List.tail_cons]
  obtain ⟨taken, dropped⟩ := run_shiftCharacters offset
    (show isWordCharacter '@' = false by decide) rest
  unfold lexeme
  simp only [head?_shiftCharacters, taken, dropped]
  cases isMark : punctuation? c with
  | some mark =>
    unfold punctuation? at isMark
    split at isMark <;> cases isMark <;> rfl
  | none =>
    refine shift_of_branches (fun _ => quotedToken_shift positive rest) fun _ => ?_
    refine shift_of_branches (fun at_ => absurd at_ other) fun _ => ?_
    refine shift_of_branches (fun _ => textToken_shift positive rest) fun _ => ?_
    refine shift_of_branches (fun national => ?_) fun _ => ?_
    · rw [tail national.2 (by decide)]
      exact textToken_shift positive rest.tail
    refine shift_of_branches (fun binary => ?_) fun _ => ?_
    · rw [binary.2.elim (tail · (by decide)) (tail · (by decide))]
      exact hexToken_shift rest.tail
    refine shift_of_branches (fun _ => numberToken_shift c rest) fun _ => ?_
    exact shift_of_branches (fun _ => rfl) fun _ => rfl

/-- **The lexer reads a shifted text in step.** What it reads at a character of the text, it
reads there in the shifted text, shifted. -/
theorem lexeme_shift (positive : offset ≠ 0) (c : Char) (rest : List Char) :
    ∃ after, shiftCharacters offset (c :: rest) = c :: after ∧
      lexeme c after = (lexeme c rest).map (shiftedRead offset) := by
  by_cases other : c = '@'
  · subst other
    by_cases starts : rest.head? = some 'p'
    · obtain ⟨others, rfl⟩ := List.head?_eq_some_iff.1 starts
      have shifted := placeholderToken_shift offset others
      rw [← lexeme_at, ← lexeme_at] at shifted
      refine ⟨_, ?_, shifted⟩
      rw [shiftCharacters]
      rfl
    · have unknown {text : List Char} (noPlaceholder : text.head? ≠ some 'p') :
          lexeme '@' text = .error .unknownPlaceholder := by
        rw [lexeme_at]
        unfold placeholderToken
        split
        · exact absurd rfl noPlaceholder
        · rfl
      refine ⟨_, shiftCharacters_cons fun _ => starts, ?_⟩
      rw [unknown starts, unknown (by rwa [head?_shiftCharacters])]
      rfl
  · exact ⟨_, shiftCharacters_other other rest, lexeme_shift_other positive other rest⟩

/-- The tokens of a text shifted by a positive offset. -/
theorem tokens_shift (positive : offset ≠ 0) (text : List Char) :
    tokens (shiftCharacters offset text) =
      (tokens text).map (List.map (Token.shifted offset)) := by
  fun_induction tokens text with
  | case1 => rw [shiftCharacters, tokens]; rfl
  | case2 c rest blank inductionHypothesis =>
    have other : c ≠ '@' := by
      rintro rfl
      exact absurd blank (by decide)
    rw [shiftCharacters_other other, tokens, if_pos blank, inductionHypothesis]
  | case3 c rest visible fault failed =>
    obtain ⟨after, shifted, read⟩ := lexeme_shift positive c rest
    rw [failed] at read
    rw [shifted, tokens, if_neg visible]
    split
    · rename_i other found
      rw [read] at found
      cases found
      rfl
    · rename_i found
      rw [read] at found
      cases found
  | case4 c rest visible token left found inductionHypothesis =>
    obtain ⟨after, shifted, read⟩ := lexeme_shift positive c rest
    rw [found] at read
    rw [shifted, tokens_cons visible read, inductionHypothesis]
    cases tokens left <;> rfl

end Sql

end RowPayload
