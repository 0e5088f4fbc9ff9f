import RowPayload.Text.Blank
import RowPayload.Text.Piece

/-!
# Cutting what was joined

Pieces without the separator come back when they are joined and the text is cut again, and so does
what stands before the first separator and after it. Trimming takes blanks off both ends, in any
order, and takes nothing off a second time.
-/

namespace RowPayload.Text

variable {separator : Char}

/-! ## Pieces -/

/-- A text without the separator is one piece. -/
theorem pieces_single {piece : List Char} (absent : separator ∉ piece) :
    pieces separator piece = [piece] := by
  induction piece with
  | nil => rfl
  | cons c rest inductionHypothesis =>
    rw [List.mem_cons, not_or] at absent
    rw [pieces, if_neg fun same => absent.1 same.symm, inductionHypothesis absent.2]

/-- What stands before a separator is the first piece. -/
theorem pieces_append {piece : List Char} (absent : separator ∉ piece) (rest : List Char) :
    pieces separator (piece ++ separator :: rest) = piece :: pieces separator rest := by
  induction piece with
  | nil => rw [List.nil_append, pieces, if_pos rfl]
  | cons c later inductionHypothesis =>
    rw [List.mem_cons, not_or] at absent
    rw [List.cons_append, pieces, if_neg fun same => absent.1 same.symm,
      inductionHypothesis absent.2]

/-- The pieces of what follows a separator, if there is one. -/
def piecesAfter (separator : Char) : List Char → List (List Char)
  | [] => []
  | _ :: rest => pieces separator rest

/-- What stands before the first separator is the first piece, whether there is one or not. -/
theorem pieces_apart {piece rest : List Char} (absent : separator ∉ piece)
    (apart : ∀ c ∈ rest.head?, c = separator) :
    pieces separator (piece ++ rest) = piece :: piecesAfter separator rest := by
  cases rest with
  | nil => rw [List.append_nil, pieces_single absent, piecesAfter]
  | cons c others =>
    obtain rfl : c = separator := apart c rfl
    rw [pieces_append absent, piecesAfter]

/-- There is no separator in a piece. -/
theorem not_mem_of_mem_pieces {text : List Char} :
    ∀ piece ∈ pieces separator text, separator ∉ piece := by
  induction text with
  | nil => simp [pieces]
  | cons c rest inductionHypothesis =>
    rw [pieces]
    split
    · exact List.forall_mem_cons.2 ⟨List.not_mem_nil, inductionHypothesis⟩
    · rename_i other
      cases cut : pieces separator rest with
      | nil => exact absurd cut (pieces_ne_nil separator rest)
      | cons first others =>
        rw [cut, List.forall_mem_cons] at inductionHypothesis
        refine List.forall_mem_cons.2 ⟨?_, inductionHypothesis.2⟩
        rw [List.mem_cons, not_or]
        exact ⟨Ne.symm other, inductionHypothesis.1⟩

/-- Pieces that are joined come back. -/
theorem pieces_join {parts : List (List Char)} (some_part : parts ≠ [])
    (absent : ∀ part ∈ parts, separator ∉ part) : pieces separator (join [separator] parts) = parts := by
  induction parts with
  | nil => exact absurd rfl some_part
  | cons first rest inductionHypothesis =>
    have head : separator ∉ first := absent first (by simp)
    cases rest with
    | nil => exact pieces_single head
    | cons second others =>
      have tail := inductionHypothesis (by simp) fun part member => absent part (by simp [member])
      have joined : join [separator] (first :: second :: others) =
          first ++ separator :: join [separator] (second :: others) :=
        List.append_assoc first [separator] _
      rw [joined, pieces_append head, tail]

/-- The first separator is where a text is cut. -/
theorem cutFirst_append {before : List Char} (absent : separator ∉ before) (after : List Char) :
    cutFirst separator (before ++ separator :: after) = some (before, after) := by
  induction before with
  | nil => rw [List.nil_append, cutFirst, if_pos rfl]
  | cons c rest inductionHypothesis =>
    rw [List.mem_cons, not_or] at absent
    rw [List.cons_append, cutFirst, if_neg fun same => absent.1 same.symm,
      inductionHypothesis absent.2]
    rfl

/-- A text that is cut has the separator between what comes before and what comes after. -/
theorem append_of_cutFirst {text before after : List Char}
    (cut : cutFirst separator text = some (before, after)) : text = before ++ separator :: after := by
  induction text generalizing before with
  | nil => cases cut
  | cons c rest inductionHypothesis =>
    rw [cutFirst] at cut
    split at cut
    · rename_i here
      cases cut
      rw [here, List.nil_append]
    · obtain ⟨⟨earlier, later⟩, found, same⟩ := Option.map_eq_some_iff.1 cut
      cases same
      rw [inductionHypothesis found, List.cons_append]

/-! ## Blanks at the ends -/

/-- Nothing is taken off before a character that is no blank. -/
theorem trimStart_cons {c : Char} (solid : isBlank c = false) (rest : List Char) :
    trimStart (c :: rest) = c :: rest := by
  rw [trimStart, List.dropWhile_cons_of_neg (by simp [solid])]

/-- Nothing is taken off up to a character that is no blank. -/
theorem trimEnd_append {c : Char} (solid : isBlank c = false) (before rest : List Char) :
    trimEnd (before ++ c :: rest) = before ++ c :: trimEnd rest := by
  have reversed : (before ++ c :: rest).reverse = rest.reverse ++ c :: before.reverse := by simp
  rw [trimEnd, reversed, trimStart, List.dropWhile_append]
  split
  · rename_i blank
    have gone : trimEnd rest = [] := by
      rw [trimEnd, trimStart, List.isEmpty_iff.1 blank, List.reverse_nil]
    rw [gone, List.dropWhile_cons_of_neg (by simp [solid])]
    simp
  · rw [trimEnd, trimStart]
    simp

/-- A text is blank, or has a first character that is no blank. -/
theorem blank_or_solid (text : List Char) :
    (∀ c ∈ text, isBlank c = true) ∨ ∃ before c rest, text = before ++ c :: rest ∧
      (∀ c ∈ before, isBlank c = true) ∧ isBlank c = false := by
  induction text with
  | nil => exact .inl fun c member => absurd member (by simp)
  | cons first rest inductionHypothesis =>
    cases blank : isBlank first with
    | false => exact .inr ⟨[], first, rest, rfl, by simp, blank⟩
    | true =>
      rcases inductionHypothesis with all | ⟨before, c, later, rfl, blanks, solid⟩
      · left
        intro c member
        rcases List.mem_cons.1 member with rfl | later
        · exact blank
        · exact all c later
      · right
        refine ⟨first :: before, c, later, rfl, ?_, solid⟩
        intro other member
        rcases List.mem_cons.1 member with rfl | before
        · exact blank
        · exact blanks other before

/-- Blanks at the start are taken off. -/
theorem trimStart_append {before : List Char} (blank : ∀ c ∈ before, isBlank c = true)
    (rest : List Char) : trimStart (before ++ rest) = trimStart rest :=
  List.dropWhile_append_of_pos blank

/-- All of a blank text is taken off. -/
theorem trimStart_blank {text : List Char} (blank : ∀ c ∈ text, isBlank c = true) :
    trimStart text = [] := by
  have taken := trimStart_append blank []
  rwa [List.append_nil] at taken

/-- Nothing is taken off at the start a second time. -/
theorem trimStart_trimStart (text : List Char) : trimStart (trimStart text) = trimStart text := by
  rcases blank_or_solid text with blank | ⟨before, c, rest, rfl, blank, solid⟩
  · rw [trimStart_blank blank]
    rfl
  · rw [trimStart_append blank, trimStart_cons solid, trimStart_cons solid]

/-- All of a blank text is taken off at its end as well. -/
theorem trimEnd_blank {text : List Char} (blank : ∀ c ∈ text, isBlank c = true) :
    trimEnd text = [] := by
  rw [trimEnd, trimStart_blank fun c member => blank c (List.mem_reverse.1 member), List.reverse_nil]

/-- Nothing is taken off a text without blanks. -/
theorem trim_solid {text : List Char} (solid : ∀ c ∈ text, isBlank c = false) :
    trim text = text := by
  have kept {text : List Char} (solid : ∀ c ∈ text, isBlank c = false) : trimStart text = text := by
    cases text with
    | nil => rfl
    | cons c rest => exact trimStart_cons (solid c (by simp)) rest
  rw [trim, kept solid, trimEnd, kept fun c member => solid c (List.mem_reverse.1 member),
    List.reverse_reverse]

/-- Nothing is taken off at the end a second time. -/
theorem trimEnd_trimEnd (text : List Char) : trimEnd (trimEnd text) = trimEnd text := by
  rw [trimEnd, trimEnd, List.reverse_reverse, trimStart_trimStart]

/-- Taking the blanks off the end first makes no difference. -/
theorem trim_trimEnd (text : List Char) : trim (trimEnd text) = trim text := by
  rcases blank_or_solid text with blank | ⟨before, c, rest, rfl, blank, solid⟩
  · rw [trimEnd_blank blank, trim, trim, trimStart_blank blank]
    rfl
  · rw [trimEnd_append solid, trim, trim, trimStart_append blank, trimStart_append blank,
      trimStart_cons solid, trimStart_cons solid]
    have ends := trimEnd_append solid [] rest
    have endsAgain := trimEnd_append solid [] (trimEnd rest)
    rw [List.nil_append, List.nil_append] at ends endsAgain
    rw [ends, endsAgain, trimEnd_trimEnd]

/-- Nothing is taken off a second time. -/
theorem trim_trim (text : List Char) : trim (trim text) = trim text := by
  have started : trim (trimStart text) = trim text := by rw [trim, trim, trimStart_trimStart]
  show trim (trimEnd (trimStart text)) = trim text
  rw [trim_trimEnd, started]

/-- Blanks around a text are taken off with those at its ends. -/
theorem trim_surrounded {before after : List Char} (blankBefore : ∀ c ∈ before, isBlank c = true)
    (blankAfter : ∀ c ∈ after, isBlank c = true) (text : List Char) :
    trim (before ++ text ++ after) = trim text := by
  have ends : trimEnd (text ++ after) = trimEnd text := by
    rw [trimEnd, List.reverse_append,
      trimStart_append fun c member => blankAfter c (List.mem_reverse.1 member), ← trimEnd]
  have started : trim (before ++ (text ++ after)) = trim (text ++ after) := by
    rw [trim, trimStart_append blankBefore, ← trim]
  rw [List.append_assoc, started, ← trim_trimEnd, ends, trim_trimEnd]

/-- Trimming only takes off. -/
theorem trim_sublist (text : List Char) : (trim text).Sublist text := by
  have started : (trimStart text).Sublist text := List.dropWhile_sublist _
  have ended : (trimEnd (trimStart text)).Sublist (trimStart text) := by
    have reversed := (List.dropWhile_sublist (p := isBlank) (l := (trimStart text).reverse)).reverse
    rwa [List.reverse_reverse] at reversed
  exact ended.trans started

end RowPayload.Text
