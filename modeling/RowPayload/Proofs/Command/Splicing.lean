import Mathlib
import RowPayload.Proofs.Command.Runs
import RowPayload.Proofs.Lifecycle.Building
import RowPayload.Proofs.Predicate.Numbering
import RowPayload.Proofs.Sql.Rendering

/-!
# What splicing renumbers

A spliced clause is its own text with the ordinals of its placeholders moved past what is bound,
and its own parameters with their ordinals and names moved along. Every token of it stays but the
placeholders, if no placeholder is written inside of a name or a text: those are shifted too,
though the lexer does not read them as placeholders. Filters write no texts, and names only as
the columns of their properties, so it is up to the columns.
-/

namespace RowPayload

/-- A list stays when it is mapped exactly if its elements do. -/
theorem map_eq_self_iff {α : Type} {change : α → α} {elements : List α} :
    elements.map change = elements ↔ ∀ element ∈ elements, change element = element := by
  conv => lhs; rhs; rw [← List.map_id elements]
  exact List.map_inj_left

/-! ## Texts without placeholders -/

namespace Placeholder

variable {offset : Nat}

/-- There is no placeholder in a text: no `@p` with digits after it that spell an ordinal. -/
def Absent (text : List Char) : Prop :=
  ∀ rest, '@' :: 'p' :: rest <:+ text → ordinal? (rest.takeWhile Char.isDigit) = none

/-- There is no placeholder in a text exactly if none of its runs spells an ordinal. -/
theorem absent_iff {text : List Char} : Absent text ↔ ∀ run ∈ runs text, ordinal? run = none := by
  constructor
  · intro absent run member
    obtain ⟨rest, inside, rfl⟩ := mem_runs.1 member
    exact absent rest inside
  · intro unspelled rest inside
    exact unspelled _ (mem_runs.2 ⟨rest, inside, rfl⟩)

/-- There is no placeholder in a text without an `@`. -/
theorem absent_of_noSign {text : List Char} (noSign : '@' ∉ text) : Absent text := by
  intro rest inside
  exact absurd (inside.subset (List.mem_cons_self ..)) noSign

/-- An ordinal does not stay when it is shifted, unless by nothing. -/
theorem shifted_ne {ordinal : Nat} (positive : offset ≠ 0) (small : offset < ordinalBound) :
    (ordinal + offset) % ordinalBound ≠ ordinal := by
  have bound : ordinalBound = 18446744073709551616 := rfl
  rw [bound] at small ⊢
  omega

/-- Digits stay when they are shifted exactly if they spell no ordinal. -/
theorem shiftDigits_eq_self (positive : offset ≠ 0) (small : offset < ordinalBound)
    (digits : List Char) : shiftDigits offset digits = digits ↔ ordinal? digits = none := by
  refine ⟨fun same => ?_, shiftDigits_of_unspelled offset⟩
  have moved := ordinal?_shiftDigits offset digits
  rw [same] at moved
  cases spelled : ordinal? digits with
  | none => rfl
  | some ordinal =>
    rw [spelled] at moved
    exact absurd (Option.some.inj moved).symm (shifted_ne positive small)

/-- A text stays when it is shifted exactly if there is no placeholder in it. -/
theorem shiftCharacters_eq_self (positive : offset ≠ 0) (small : offset < ordinalBound)
    (text : List Char) : shiftCharacters offset text = text ↔ Absent text := by
  rw [absent_iff]
  constructor
  · intro same run member
    have moved := runs_shiftCharacters offset text
    rw [same] at moved
    exact (shiftDigits_eq_self positive small run).1
      (map_eq_self_iff.1 moved.symm run member)
  · intro unspelled
    refine eq_of_frame_of_runs (frame_shiftCharacters offset text) ?_
    rw [runs_shiftCharacters, map_eq_self_iff]
    exact fun run member => shiftDigits_of_unspelled offset (unspelled run member)

/-- A text stays when it is shifted if it is shifted by nothing or there is no placeholder in
it. -/
theorem shift_eq_self (small : offset < ordinalBound) (text : String) :
    shift offset text = text ↔ offset = 0 ∨ Absent text.toList := by
  unfold shift
  split
  · rename_i nothing
    exact iff_of_true rfl (.inl nothing)
  · rename_i positive
    rw [← shiftCharacters_eq_self positive small, or_iff_right positive]
    constructor
    · intro same
      rw [← String.toList_ofList (l := shiftCharacters offset text.toList), same]
    · intro same
      rw [same, String.ofList_toList]

end Placeholder

/-! ## Tokens that only placeholders are moved among -/

namespace Sql

open Placeholder (Absent ordinalBound shiftCharacters_eq_self shift_eq_self)

variable {offset : Nat}

/-- A token with its ordinal moved, if it is a placeholder. -/
def Token.renumbered (offset : Nat) : Token → Token
  | .parameter ordinal => .parameter (ordinal + offset)
  | other => other

/-- Shifting does to a token what renumbering does: an ordinal stays a machine word, and there is
no placeholder inside of a name or a text. -/
def Token.Spared (offset : Nat) : Token → Prop
  | .parameter ordinal => ordinal + offset < ordinalBound
  | .quoted name => offset = 0 ∨ Absent name.toList
  | .text content => offset = 0 ∨ Absent content.toList
  | _ => True

/-- A token is renumbered when it is shifted exactly if it is spared. -/
theorem shifted_eq_renumbered (small : offset < ordinalBound) (token : Token) :
    token.shifted offset = token.renumbered offset ↔ token.Spared offset := by
  cases token with
  | parameter ordinal =>
    have positive : ordinalBound ≠ 0 := by decide
    simp only [Token.shifted, Token.renumbered, Token.parameter.injEq, Token.Spared]
    exact Nat.mod_eq_iff_lt positive
  | quoted name | text name =>
    simp only [Token.shifted, Token.renumbered, Token.quoted.injEq, Token.text.injEq, Token.Spared]
    exact shift_eq_self small name
  | _ => exact iff_of_true rfl trivial

/-- Tokens of a text stay when they are shifted by nothing. -/
theorem shifted_zero {token : Token} (limited : token.Limited) : token.shifted 0 = token := by
  cases token with
  | parameter ordinal => exact congrArg Token.parameter (Nat.mod_eq_of_lt limited)
  | _ => rfl

/-- The tokens of a shifted text are those of the text, shifted. -/
theorem tokenize_shift (offset : Nat) (text : String) :
    tokenize (Placeholder.shift offset text) =
      (tokenize text).map (List.map (Token.shifted offset)) := by
  by_cases nothing : offset = 0
  · rw [nothing, Placeholder.shift, if_pos rfl]
    cases read : tokenize text with
    | error fault => rfl
    | ok written =>
      have limited := (tokenize_iff.1 read).limited
      have same : written.map (Token.shifted 0) = written :=
        map_eq_self_iff.2 fun token member => shifted_zero (limited token member)
      rw [Except.map, same]
  · rw [Placeholder.shift, if_neg nothing, tokenize, String.toList_ofList, tokens_shift nothing]
    rfl

/-- The tokens of a text without placeholders are spared. -/
theorem spared_of_absent (small : offset < ordinalBound) {text : String} {written : List Token}
    (read : tokenize text = .ok written) (absent : Absent text.toList) :
    ∀ token ∈ written, token.Spared offset := by
  have limited := (tokenize_iff.1 read).limited
  have stays : Placeholder.shift offset text = text := (shift_eq_self small text).2 (.inr absent)
  have same := tokenize_shift offset text
  rw [stays, read] at same
  have each : ∀ token ∈ written, token.shifted offset = token :=
    map_eq_self_iff.1 (Except.ok.inj same).symm
  intro token member
  rw [← shifted_eq_renumbered small, each token member]
  cases token with
  | parameter ordinal =>
    -- No placeholder of a text stays unless the text is shifted by nothing.
    by_cases nothing : offset = 0
    · rw [nothing]
      rfl
    · exact absurd (Token.parameter.inj (each _ member))
        (Placeholder.shifted_ne nothing small)
  | _ => rfl

/-- A shifted text is renumbered exactly if all of its tokens are spared. -/
theorem tokenize_shift_eq (small : offset < ordinalBound) (text : String) :
    tokenize (Placeholder.shift offset text) =
        (tokenize text).map (List.map (Token.renumbered offset)) ↔
      ∀ written, tokenize text = .ok written → ∀ token ∈ written, token.Spared offset := by
  rw [tokenize_shift]
  cases tokenize text with
  | error fault => exact iff_of_true rfl nofun
  | ok written =>
    simp only [Except.map, Except.ok.injEq, forall_eq', List.map_inj_left,
      shifted_eq_renumbered small]

end Sql

/-! ## Compiled clauses -/

namespace Predicate

open Sql (Token tokenize)

variable {ε : Type} {descriptor : Descriptor} {bound later : List Parameter} {part : Fragment}
variable {surroundings after : ε} {offset : Nat}

/-- A column that the lexer reads by itself, with no placeholder anywhere in it. -/
def SparedColumn (column : String) : Prop :=
  (∃ written, tokenize column = .ok written) ∧ Placeholder.Absent column.toList

/-- A part that compiles binds no fewer values than are bound already, and its text has tokens
that are spared if the columns are. -/
theorem visit_spared {predicate : Predicate ε}
    (visited : (visit descriptor predicate bound).perform surroundings =
      (.ok (part, later), after))
    (spared : ∀ property ∈ predicate.properties, ∀ column,
      descriptor.columns.get? property = some column → SparedColumn column)
    (few : later.length + offset < Placeholder.ordinalBound) :
    bound.length ≤ later.length ∧ ∃ written, tokenize part.text = .ok written ∧
      ∀ token ∈ written, token.Spared offset := by
  induction predicate generalizing bound later part surroundings after with
  | column property =>
    obtain ⟨column, mapped, rfl, rfl, -⟩ := visit_column_ok visited
    obtain ⟨⟨written, read⟩, absent⟩ := spared property (List.mem_singleton.2 rfl) column mapped
    exact ⟨Nat.le_refl _, written, read, Sql.spared_of_absent (by omega) read absent⟩
  | value source =>
    obtain ⟨rfl, rfl, -⟩ := visit_value_ok visited
    rw [List.length_append, List.length_singleton] at few ⊢
    refine ⟨by omega, [.parameter bound.length], Sql.tokens_placeholder (by omega), ?_⟩
    rw [List.forall_mem_singleton]
    show bound.length + offset < Placeholder.ordinalBound
    omega
  | binary op left right leftHypothesis rightHypothesis =>
    obtain ⟨leftPart, rightPart, middleBound, lastBound, middle, visitLeft, visitRight, formed,
      rfl, rfl⟩ := visit_binary_ok visited
    have same : (relate op leftPart rightPart lastBound).length = lastBound.length := by
      simpa [boundValues] using congrArg List.length
        (boundValues_relate op leftPart rightPart lastBound)
    rw [same] at few ⊢
    obtain ⟨rightMore, second, readRight, rightSpared⟩ := rightHypothesis visitRight
      (fun property member => spared property (List.mem_append_right _ member)) few
    obtain ⟨leftMore, first, readLeft, leftSpared⟩ := leftHypothesis visitLeft
      (fun property member => spared property (List.mem_append_left _ member)) (by omega)
    have operatorSpared : (operatorToken op).Spared offset := by cases op <;> trivial
    refine ⟨by omega, _, tokens_join formed readLeft readRight, ?_⟩
    simp only [List.forall_mem_cons, List.forall_mem_append]
    exact ⟨trivial, leftSpared, operatorSpared, rightSpared, trivial, List.forall_mem_nil _⟩
  | negation inner _ => simp [visit] at visited

end Predicate

namespace CommandBuilder

open Sql (Token tokenize)

/-- A spliced clause comes last, shifted past what is bound. -/
theorem build_splice (builder : CommandBuilder) (clause : Clause) :
    (builder.splice clause).build.sql =
      builder.build.sql ++ Placeholder.shift builder.parameters.length clause.sql := by
  simp [build, splice, partText, String.join_append]

/-- **Splicing renumbers placeholders, and nothing else where no name has one in it.** A clause
that is compiled and spliced after any parameters appends its parameters with only their ordinals
and names moved, and a text whose tokens are those of the clause, shifted. These are the tokens of
the clause with nothing but the ordinals of its placeholders moved exactly if there is no
placeholder inside of a name or a text of the clause, which there is not if the lexer reads each
column of the filter by itself and no placeholder is written in it. -/
theorem splice_renumbers {ε : Type} {descriptor : Descriptor} {predicate : Predicate ε}
    {surroundings after : ε} {clause : Clause}
    (compiled : (predicate.compile descriptor).perform surroundings = (.ok clause, after))
    (builder : CommandBuilder)
    (few : clause.parameters.length + builder.parameters.length < Placeholder.ordinalBound) :
    (builder.splice clause).parameters = builder.parameters ++ clause.parameters.map
      (fun parameter => { parameter with
        ordinal := parameter.ordinal + builder.parameters.length
        name := placeholder (parameter.ordinal + builder.parameters.length) }) ∧
    ∃ appended, (builder.splice clause).build.sql = builder.build.sql ++ appended ∧
      tokenize appended =
        (tokenize clause.sql).map (List.map (Token.shifted builder.parameters.length)) ∧
      (tokenize appended =
          (tokenize clause.sql).map (List.map (Token.renumbered builder.parameters.length)) ↔
        ∀ written, tokenize clause.sql = .ok written →
          ∀ token ∈ written, token.Spared builder.parameters.length) ∧
      ((∀ property ∈ predicate.properties, ∀ column,
          descriptor.columns.get? property = some column → Predicate.SparedColumn column) →
        ∃ written, tokenize clause.sql = .ok written ∧
          tokenize appended =
            .ok (written.map (Token.renumbered builder.parameters.length))) := by
  have small : builder.parameters.length < Placeholder.ordinalBound := by omega
  refine ⟨rfl, _, build_splice builder clause, Sql.tokenize_shift _ _,
    Sql.tokenize_shift_eq small _, fun spared => ?_⟩
  rw [Predicate.compile] at compiled
  obtain ⟨⟨part, later⟩, middle, visited, compiled⟩ := Work.perform_bind_ok compiled
  rw [Work.perform_pure] at compiled
  cases compiled
  obtain ⟨-, written, read, sparedTokens⟩ := Predicate.visit_spared visited spared few
  refine ⟨written, read, ?_⟩
  have renumbered := (Sql.tokenize_shift_eq small part.text).2 fun other readOther => by
    cases read.symm.trans readOther
    exact sparedTokens
  rw [renumbered, read]
  rfl

end CommandBuilder

/-- The clause of the recording with the number 7. -/
def Sample.clause : Clause := ⟨"([Id] = @p0)", [⟨0, "@p0", some "[Id]", some .int, .int 7⟩]⟩

namespace CommandBuilder

/-- The clause of the recording with the number 7, spliced after one value. -/
theorem splice_renumbers_seventh :
    ∃ appended, ((empty.bind none (.int 1)).splice Sample.clause).build.sql = "@p0" ++ appended ∧
      Sql.tokenize appended =
        .ok [.leftParen, .quoted "Id", .equals, .parameter 1, .rightParen] := by
  have compiled : ((Sample.seventh : Predicate Unit).compile Sample.descriptor).perform () =
      (.ok Sample.clause, ()) := rfl
  have spared : ∀ property ∈ (Sample.seventh : Predicate Unit).properties, ∀ column,
      Sample.descriptor.columns.get? property = some column → Predicate.SparedColumn column := by
    intro property member column mapped
    obtain rfl : property = "id" := by
      simpa [Sample.seventh, Predicate.properties, Predicate.columnEquals, Predicate.literal]
        using member
    obtain rfl : "[Id]" = column := Option.some.inj mapped
    exact ⟨⟨[.quoted "Id"], by cbv⟩, Placeholder.absent_of_noSign (by decide)⟩
  obtain ⟨-, appended, text, -, -, renumbers⟩ := splice_renumbers compiled
    (empty.bind none (.int 1)) (by decide)
  obtain ⟨written, read, renumbered⟩ := renumbers spared
  have spelled : Sql.tokenize Sample.clause.sql =
      .ok [.leftParen, .quoted "Id", .equals, .parameter 0, .rightParen] := by cbv
  obtain rfl := Except.ok.inj (spelled.symm.trans read)
  exact ⟨appended, text, renumbered⟩

end CommandBuilder

/-- A descriptor of recordings whose number is stored in a column named like a placeholder. -/
def Sample.takes : Descriptor where
  table := "Recordings"
  columns := (OrderedMap.empty.insert "id" "[Take@p0]").insert "sound" "[Sound]"
  identifier := some "id"
  payload := "sound"
  payloadColumn := "[Sound]"
  payload_mapped := rfl
  identifier_mapped := by
    rintro _ ⟨⟩
    decide

/-- Splicing also renames a column named like a placeholder. -/
theorem CommandBuilder.splice_renames_take :
    ¬ ∀ (descriptor : Descriptor) (predicate : Predicate Unit) (clause : Clause),
      (predicate.compile descriptor).perform () = (.ok clause, ()) →
      ∀ (builder : CommandBuilder) (appended : String),
        (builder.splice clause).build.sql = builder.build.sql ++ appended →
        Sql.tokenize appended = (Sql.tokenize clause.sql).map
          (List.map (Sql.Token.renumbered builder.parameters.length)) := by
  intro renumbers
  have digits : Placeholder.shiftDigits 1 ['0'] = ['1'] := rfl
  have shifted : Placeholder.shift 1 "([Take@p0] = @p0)" = "([Take@p1] = @p1)" := by
    simp [Placeholder.shift, Placeholder.shiftCharacters, digits]
  have renumbered := renumbers Sample.takes Sample.seventh
    ⟨"([Take@p0] = @p0)", [⟨0, "@p0", some "[Take@p0]", some .int, .int 7⟩]⟩ rfl
    (empty.bind none (.int 1)) "([Take@p1] = @p1)"
    ((build_splice _ _).trans (congrArg _ shifted))
  have written : Sql.tokenize "([Take@p0] = @p0)" =
      .ok [.leftParen, .quoted "Take@p0", .equals, .parameter 0, .rightParen] := by cbv
  have appended : Sql.tokenize "([Take@p1] = @p1)" =
      .ok [.leftParen, .quoted "Take@p1", .equals, .parameter 1, .rightParen] := by cbv
  rw [appended, written] at renumbered
  revert renumbered
  decide

end RowPayload
