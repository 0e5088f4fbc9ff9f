import Mathlib
import RowPayload.Proofs.Command.Shifting

/-!
# What shifting moves and what it leaves

A text is made of runs, which are the digits that directly follow an `@p`, and a frame, which is
everything else. Shifting moves every run by itself and leaves the frame alone. A run may become
longer or shorter, and all that follows it changes its place. But the frame and the runs in their
order say what the text is, so what holds of shifting one run holds of shifting a text: two shifts
are one, by both offsets.
-/

namespace RowPayload.Placeholder

/-! ## Frame and runs -/

/-- The digits that directly follow an `@p` at the beginning of a text. -/
def leadingRun? : List Char → Option (List Char)
  | '@' :: 'p' :: rest => some (rest.takeWhile Char.isDigit)
  | _ => none

/-- The runs of digits that directly follow an `@p`, in order. A run without digits is empty. -/
def runs (text : List Char) : List (List Char) := text.tails.filterMap leadingRun?

/-- A text without the digits that directly follow an `@p`. -/
def frame : List Char → List Char
  | [] => []
  | '@' :: 'p' :: rest => '@' :: 'p' :: frame (rest.dropWhile Char.isDigit)
  | c :: rest => c :: frame rest
termination_by text => text.length
decreasing_by
  · have bound := length_dropWhile_le Char.isDigit rest
    simp only [List.length_cons]
    omega
  · simp

/-- The runs are the digits that directly follow an `@p` anywhere in the text. -/
theorem mem_runs {run text : List Char} :
    run ∈ runs text ↔
      ∃ rest, '@' :: 'p' :: rest <:+ text ∧ rest.takeWhile Char.isDigit = run := by
  rw [runs, List.mem_filterMap]
  constructor
  · rintro ⟨tail, inside, leads⟩
    rw [List.mem_tails] at inside
    unfold leadingRun? at leads
    split at leads
    · exact ⟨_, inside, Option.some.inj leads⟩
    · cases leads
  · rintro ⟨rest, inside, rfl⟩
    exact ⟨_, (List.mem_tails ..).2 inside, rfl⟩

/-- A character that does not start an `@p` is in no run and has none. -/
theorem runs_cons {c : Char} {rest : List Char} (plain : c = '@' → rest.head? ≠ some 'p') :
    runs (c :: rest) = runs rest := by
  have leads : leadingRun? (c :: rest) = none := by
    unfold leadingRun?
    split
    · rename_i same
      cases same
      exact absurd rfl (plain rfl)
    · rfl
  rw [runs, List.tails_cons, List.filterMap_cons_none leads, runs]

/-- There is no run in characters among which there is no `@`. -/
theorem runs_append {before : List Char} (noSign : '@' ∉ before) (rest : List Char) :
    runs (before ++ rest) = runs rest := by
  induction before with
  | nil => rfl
  | cons c others inductionHypothesis =>
    rw [List.mem_cons, not_or] at noSign
    rw [List.cons_append, runs_cons fun sign => absurd sign.symm noSign.1,
      inductionHypothesis noSign.2]

/-- The run of an `@p` comes before those behind it. -/
theorem runs_sign (rest : List Char) :
    runs ('@' :: 'p' :: rest) =
      rest.takeWhile Char.isDigit :: runs (rest.dropWhile Char.isDigit) := by
  have noSign : '@' ∉ 'p' :: rest.takeWhile Char.isDigit := by
    have digits : '@' ∉ rest.takeWhile Char.isDigit := by
      intro member
      exact absurd (List.mem_takeWhile_imp member) (by decide)
    simpa using digits
  -- No `@p` starts among the digits, so they can be passed over like the scan does.
  have behind : runs ('p' :: rest) = runs (rest.dropWhile Char.isDigit) := by
    conv => lhs; rw [← @List.takeWhile_append_dropWhile Char Char.isDigit rest]
    exact runs_append noSign _
  have leads : leadingRun? ('@' :: 'p' :: rest) = some (rest.takeWhile Char.isDigit) := rfl
  rw [runs, List.tails_cons, List.filterMap_cons_some leads, ← behind, runs]

/-- A character that does not start an `@p` belongs to the frame. -/
theorem frame_cons {c : Char} {rest : List Char} (plain : c = '@' → rest.head? ≠ some 'p') :
    frame (c :: rest) = c :: frame rest := by
  rw [frame]
  rintro others rfl rfl
  exact plain rfl rfl

/-- An `@p` belongs to the frame, and its run does not. -/
theorem frame_sign (rest : List Char) :
    frame ('@' :: 'p' :: rest) = '@' :: 'p' :: frame (rest.dropWhile Char.isDigit) := by
  rw [frame]

/-- A text begins with the same character as its frame. -/
theorem head?_frame (text : List Char) : (frame text).head? = text.head? := by
  fun_cases frame text with
  | case1 => rfl
  | case2 rest => rfl
  | case3 c rest plain => rfl

/-- A frame with runs put behind its `@p`s. -/
def fill : List Char → List (List Char) → List Char
  | '@' :: 'p' :: rest, run :: others => '@' :: 'p' :: (run ++ fill rest others)
  | c :: rest, others => c :: fill rest others
  | [], _ => []

/-- A character that does not start an `@p` is left by itself. -/
theorem fill_cons {c : Char} {rest : List Char} (plain : c = '@' → rest.head? ≠ some 'p')
    (others : List (List Char)) : fill (c :: rest) others = c :: fill rest others := by
  rw [fill]
  rintro after run later - rfl rfl
  exact plain rfl rfl

/-- A text is its frame with its runs. -/
theorem fill_frame_runs (text : List Char) : fill (frame text) (runs text) = text := by
  fun_induction frame text with
  | case1 => rfl
  | case2 rest inductionHypothesis =>
    rw [runs_sign, fill, inductionHypothesis, List.takeWhile_append_dropWhile]
  | case3 c rest passed inductionHypothesis =>
    rw [runs_cons (head?_ne_of_passed passed), fill_cons, inductionHypothesis]
    rw [head?_frame]
    exact head?_ne_of_passed passed

/-- Texts are the same if their frames and their runs are. -/
theorem eq_of_frame_of_runs {first second : List Char} (frames : frame first = frame second)
    (same : runs first = runs second) : first = second := by
  rw [← fill_frame_runs first, frames, same, fill_frame_runs]

/-! ## Shifting -/

/-- **Shifting leaves the frame of a text.** -/
theorem frame_shiftCharacters (offset : Nat) (text : List Char) :
    frame (shiftCharacters offset text) = frame text := by
  fun_induction shiftCharacters offset text with
  | case1 => rfl
  | case2 rest inductionHypothesis =>
    obtain ⟨-, dropped⟩ := digits_shifted offset rest
    rw [List.cons_append, List.cons_append, frame_sign, dropped, inductionHypothesis, frame_sign]
  | case3 c rest passed inductionHypothesis =>
    rw [frame_cons, inductionHypothesis, frame_cons (head?_ne_of_passed passed)]
    rw [head?_shiftCharacters]
    exact head?_ne_of_passed passed

/-- **Shifting moves the runs of a text one by one.** -/
theorem runs_shiftCharacters (offset : Nat) (text : List Char) :
    runs (shiftCharacters offset text) = (runs text).map (shiftDigits offset) := by
  fun_induction shiftCharacters offset text with
  | case1 => rfl
  | case2 rest inductionHypothesis =>
    obtain ⟨taken, dropped⟩ := digits_shifted offset rest
    rw [List.cons_append, List.cons_append, runs_sign, taken, dropped, inductionHypothesis,
      runs_sign, List.map_cons]
  | case3 c rest passed inductionHypothesis =>
    rw [runs_cons, inductionHypothesis, runs_cons (head?_ne_of_passed passed)]
    rw [head?_shiftCharacters]
    exact head?_ne_of_passed passed

/-- Digits that spell no ordinal stay. -/
theorem shiftDigits_of_unspelled (offset : Nat) {digits : List Char}
    (unspelled : ordinal? digits = none) : shiftDigits offset digits = digits := by
  rw [shiftDigits, unspelled]

/-- Digits that are shifted twice are shifted by both offsets. -/
theorem shiftDigits_shiftDigits (first second : Nat) (digits : List Char) :
    shiftDigits second (shiftDigits first digits) = shiftDigits (first + second) digits := by
  cases spelled : ordinal? digits with
  | none =>
    rw [shiftDigits_of_unspelled first spelled, shiftDigits_of_unspelled second spelled,
      shiftDigits_of_unspelled (first + second) spelled]
  | some ordinal =>
    have moved := ordinal?_shiftDigits first digits
    rw [spelled, Option.map_some] at moved
    have sum : ((ordinal + first) % ordinalBound + second) % ordinalBound =
        (ordinal + (first + second)) % ordinalBound := by
      rw [Nat.mod_add_mod, Nat.add_assoc]
    conv => lhs; rw [shiftDigits, moved]
    conv => rhs; rw [shiftDigits, spelled]
    exact congrArg (fun moved => (toString moved).toList) sum

/-- Characters that are shifted twice are shifted by both offsets. -/
theorem shiftCharacters_shiftCharacters (first second : Nat) (text : List Char) :
    shiftCharacters second (shiftCharacters first text) =
      shiftCharacters (first + second) text := by
  -- The second scan does not meet the text of the first one, but a text with its frame.
  apply eq_of_frame_of_runs
  · rw [frame_shiftCharacters, frame_shiftCharacters, frame_shiftCharacters]
  · rw [runs_shiftCharacters, runs_shiftCharacters, runs_shiftCharacters, List.map_map]
    exact List.map_congr_left fun run _ => shiftDigits_shiftDigits first second run

/-- A text that is shifted twice is shifted by both offsets, also if one of them is nothing. -/
theorem shift_shift (first second : Nat) (text : String) :
    shift second (shift first text) = shift (first + second) text := by
  by_cases noFirst : first = 0
  · rw [noFirst, Nat.zero_add]
    rfl
  by_cases noSecond : second = 0
  · rw [noSecond, Nat.add_zero]
    rfl
  -- Past the offset of nothing, which keeps leading zeros, all three texts are scanned.
  have both : first + second ≠ 0 := by omega
  rw [shift, shift, shift, if_neg noFirst, if_neg noSecond, if_neg both, String.toList_ofList,
    shiftCharacters_shiftCharacters]

/-- A shifted text has the frame of the text. -/
theorem frame_shift (offset : Nat) (text : String) :
    frame (shift offset text).toList = frame text.toList := by
  unfold shift
  split
  · rfl
  · rw [String.toList_ofList, frame_shiftCharacters]

/-- What becomes of a run when its ordinal is moved. A run that spells none stays. -/
structure Moved (offset : Nat) (run moved : List Char) : Prop where
  ordinal : ordinal? moved = (ordinal? run).map (· + offset)
  stays : ordinal? run = none → moved = run

/-- Shifted digits are moved, as long as ordinals are machine words. -/
theorem moved_shiftDigits {offset : Nat} {run : List Char}
    (word : ∀ ordinal ∈ ordinal? run, ordinal + offset < ordinalBound) :
    Moved offset run (shiftDigits offset run) where
  ordinal := by
    rw [ordinal?_shiftDigits]
    cases spelled : ordinal? run with
    | none => rfl
    | some ordinal => exact congrArg some (Nat.mod_eq_of_lt (word ordinal spelled))
  stays := shiftDigits_of_unspelled offset

/-- The runs of a shifted text are moved, as long as ordinals are machine words. -/
theorem moved_shift {offset : Nat} {text : String}
    (words : ∀ run ∈ runs text.toList, ∀ ordinal ∈ ordinal? run,
      ordinal + offset < ordinalBound) :
    List.Forall₂ (Moved offset) (runs text.toList) (runs (shift offset text).toList) := by
  unfold shift
  split
  · rename_i nothing
    refine List.forall₂_same.2 fun run _ => ⟨?_, fun _ => rfl⟩
    rw [nothing]
    exact Option.map_id'.symm
  · rw [String.toList_ofList, runs_shiftCharacters, List.forall₂_map_right_iff, List.forall₂_same]
    exact fun run member => moved_shiftDigits (words run member)

/-- **Shifts add up, inside of runs.** A text that is shifted by one offset and then by another is
the text shifted by their sum. Outside of the digits that directly follow an `@p` a shifted text is
the text. The digits behind each `@p` spell the ordinal that they spelled and the offset together,
as long as ordinals are machine words, and they stay if they spelled none. -/
theorem shifts_add_inside_runs (first second : Nat) (text : String) :
    shift second (shift first text) = shift (first + second) text ∧
      frame (shift first text).toList = frame text.toList ∧
      ((∀ run ∈ runs text.toList, ∀ ordinal ∈ ordinal? run, ordinal + first < ordinalBound) →
        List.Forall₂ (Moved first) (runs text.toList) (runs (shift first text).toList)) :=
  ⟨shift_shift first second text, frame_shift first text, moved_shift⟩

/-- A text with leading zeros, an `@p` without digits, digits that no machine word holds, and an
ordinal that becomes longer. -/
theorem shifts_add_inside_runs_scribble :
    (∀ run ∈ runs "@p007 @pX @p99999999999999999999 [@p8]".toList, ∀ ordinal ∈ ordinal? run,
      ordinal + 2 < ordinalBound) ∧
    shift 3 (shift 2 "@p007 @pX @p99999999999999999999 [@p8]") =
      "@p12 @pX @p99999999999999999999 [@p13]" ∧
    List.Forall₂ (Moved 2) ["007".toList, [], "99999999999999999999".toList, "8".toList]
      (runs (shift 2 "@p007 @pX @p99999999999999999999 [@p8]").toList) := by
  have cut : runs "@p007 @pX @p99999999999999999999 [@p8]".toList =
      ["007".toList, [], "99999999999999999999".toList, "8".toList] := by decide +kernel
  have words : ∀ run ∈ runs "@p007 @pX @p99999999999999999999 [@p8]".toList,
      ∀ ordinal ∈ ordinal? run, ordinal + 2 < ordinalBound := by decide +kernel
  have both : shift 5 "@p007 @pX @p99999999999999999999 [@p8]" =
      "@p12 @pX @p99999999999999999999 [@p13]" := by decide +kernel
  obtain ⟨sum, -, moved⟩ := shifts_add_inside_runs 2 3 "@p007 @pX @p99999999999999999999 [@p8]"
  refine ⟨words, sum.trans both, ?_⟩
  rw [← cut]
  exact moved words

end RowPayload.Placeholder
