import RowPayload.Proofs.Engine.Selection
import RowPayload.Proofs.Lifecycle.Naming

/-!
# The values that a filter binds

The placeholders of a compiled filter stand for the values that the filter binds, and for no
others, if its columns are written as names. So a statement that binds further values after
those of its filter selects the same rows as the filter alone.
-/

namespace RowPayload

open Engine Sql

/-! ## Placeholders in conditions -/

/-- The operands that a condition compares. -/
def Sql.Condition.operands : Condition → List Operand
  | .equal left right => [left, right]
  | .both left right => left.operands ++ right.operands
  | .either left right => left.operands ++ right.operands

/-- A condition is evaluated alike where its operands have the same values. -/
theorem Engine.holds_congr {value other : Operand → Except Failure Value} {condition : Condition}
    (same : ∀ operand ∈ condition.operands, value operand = other operand) :
    holds value condition = holds other condition := by
  induction condition with
  | equal left right =>
    have leftSame := same left (by simp [Condition.operands])
    have rightSame := same right (by simp [Condition.operands])
    rw [holds, holds, leftSame, rightSame]
  | both left right leftHypothesis rightHypothesis =>
    have leftSame := leftHypothesis fun operand member =>
      same operand (List.mem_append_left _ member)
    have rightSame := rightHypothesis fun operand member =>
      same operand (List.mem_append_right _ member)
    rw [holds, holds, leftSame, rightSame]
  | either left right leftHypothesis rightHypothesis =>
    have leftSame := leftHypothesis fun operand member =>
      same operand (List.mem_append_left _ member)
    have rightSame := rightHypothesis fun operand member =>
      same operand (List.mem_append_right _ member)
    rw [holds, holds, leftSame, rightSame]

/-- A placeholder that a condition compares is one of its tokens. -/
theorem Sql.IsCondition.parameter_mem {rank : Rank} {tokens : List Token} {condition : Condition}
    (isCondition : IsCondition rank tokens condition) {ordinal : Nat}
    (compared : .parameter ordinal ∈ condition.operands) : .parameter ordinal ∈ tokens := by
  induction isCondition with
  | parens inside inductionHypothesis => simp [inductionHypothesis compared]
  | equal isLeft isRight =>
    rcases List.mem_cons.1 compared with rfl | inRight
    · cases isLeft
      simp
    · obtain rfl := List.mem_singleton.1 inRight
      cases isRight
      simp
  | oneAtom single inductionHypothesis => exact inductionHypothesis compared
  | oneConjunction single inductionHypothesis => exact inductionHypothesis compared
  | both isLeft keyword isRight leftHypothesis rightHypothesis =>
    rcases List.mem_append.1 compared with inLeft | inRight
    · simp [leftHypothesis inLeft]
    · simp [rightHypothesis inRight]
  | either isLeft keyword isRight leftHypothesis rightHypothesis =>
    rcases List.mem_append.1 compared with inLeft | inRight
    · simp [leftHypothesis inLeft]
    · simp [rightHypothesis inRight]

/-- A name has no placeholders. -/
theorem Sql.IsName.parameter_notMem {tokens : List Token} {parts : List String}
    (isName : IsName tokens parts) (ordinal : Nat) : .parameter ordinal ∉ tokens := by
  induction isName with
  | last isPart => cases isPart <;> simp
  | more isPart others inductionHypothesis => cases isPart <;> simp [inductionHypothesis]

/-- A condition picks the same rows when further values are bound, if its placeholders stand for
those that were bound before. -/
theorem Engine.picks_prefix {fewer more : List Parameter}
    (goesOn : boundValues fewer <+: boundValues more) {condition : Condition}
    (within : ∀ ordinal, .parameter ordinal ∈ condition.operands → ordinal < fewer.length)
    (table : Table) : picks more table (some condition) = picks fewer table (some condition) := by
  funext row
  have same : passes more table (some condition) row = passes fewer table (some condition) row := by
    refine holds_congr fun operand member => ?_
    cases operand with
    | parameter ordinal =>
      have inside : ordinal < (boundValues fewer).length := by
        simpa [boundValues] using within ordinal member
      have known : (boundValues fewer)[ordinal]? = some (boundValues fewer)[ordinal] :=
        List.getElem?_eq_getElem inside
      have again : (boundValues more)[ordinal]? = some (boundValues fewer)[ordinal] := by
        obtain ⟨others, equal⟩ := goesOn
        rw [← equal, List.getElem?_append_left inside, known]
      rw [operandValue, operandValue, parameterValue_of_boundValues known,
        parameterValue_of_boundValues again]
    | column _ | binary _ | integer _ | text _ | null => rfl
  rw [picks, picks, same]

/-! ## Placeholders in filters -/

/-- Whether a clause selects a row of a table. -/
def Clause.selects (clause : Clause) (table : Table) (row : TableRow) : Bool :=
  clause.condition?.any fun condition => picks clause.parameters table (some condition) row

/-- A clause selects the rows that the condition which it spells picks. -/
theorem Clause.Spells.selects_eq {clause : Clause} {condition : Condition} {semicolons : Nat}
    (spells : clause.Spells condition semicolons) (table : Table) :
    clause.selects table = picks clause.parameters table (some condition) := by
  funext row
  rw [Clause.selects, spells.condition?_eq]
  rfl

/-- Whether a row of a table meets a clause, if the clause is a condition that can be tried on
it. -/
def Clause.meets? (clause : Clause) (table : Table) (row : TableRow) : Option Bool :=
  clause.condition?.bind fun condition =>
    (passes clause.parameters table (some condition) row).toOption

/-- A clause picks the row with a number out of a table: it can be tried on every row, and no
other row meets it. -/
def Clause.PicksOut (clause : Clause) (table : Table) (number : Nat) : Prop :=
  ∀ row ∈ table.rows, clause.meets? table row = some (decide (row.id = number))

namespace Clause.PicksOut

variable {clause : Clause} {table : Table} {number : Nat}

/-- A clause that picks a row out is a condition, which that row alone passes. -/
theorem passes (picksOut : clause.PicksOut table number) {row : TableRow}
    (member : row ∈ table.rows) : ∃ condition semicolons, ∃ _ : clause.Spells condition semicolons,
      ∀ row ∈ table.rows, Engine.passes clause.parameters table (some condition) row =
        .ok (decide (row.id = number)) := by
  have answered := picksOut row member
  obtain ⟨condition, known, -⟩ := Option.bind_eq_some_iff.1 answered
  obtain ⟨semicolons, ⟨spells⟩⟩ := Clause.spells_of_condition? known
  refine ⟨condition, semicolons, spells, fun row member => ?_⟩
  have meets := picksOut row member
  rw [Clause.meets?, known, Option.bind_some] at meets
  cases tried : Engine.passes clause.parameters table (some condition) row with
  | error failure =>
    rw [tried] at meets
    cases meets
  | ok passed =>
    rw [tried] at meets
    rw [Option.some.inj meets]

/-- The rows that a clause selects which picks a row out are those with the number. -/
theorem selects_eq (picksOut : clause.PicksOut table number) {row : TableRow}
    (member : row ∈ table.rows) : clause.selects table row = decide (row.id = number) := by
  obtain ⟨condition, semicolons, spells, passed⟩ := picksOut.passes member
  rw [spells.selects_eq]
  exact picks_of_passes (passed row member)

end Clause.PicksOut

namespace Lifecycle.Naming

variable {ε : Type} {descriptor : Descriptor}

/-- The placeholders of a compiled part stand for values that are bound by then, if the part
has tokens, be it with a text after it. It has none if there are more values than machine
words. -/
theorem visit_placeholders (naming : Naming descriptor) {predicate : Predicate ε}
    {bound later : List Parameter} {part : Fragment} {surroundings after : ε}
    (visited : (predicate.visit descriptor bound).perform surroundings =
      (.ok (part, later), after))
    {following : List Char} {found : List Token} (apart : StartsApart following)
    (read : tokens (part.text.toList ++ following) = .ok found) :
    bound.length ≤ later.length ∧ ∃ written, tokens part.text.toList = .ok written ∧
      ∀ ordinal, .parameter ordinal ∈ written → ordinal < later.length := by
  induction predicate generalizing bound later part surroundings after following found with
  | column property =>
    obtain ⟨name, _, mapped, visited⟩ := Work.perform_bind_ok visited
    obtain ⟨column, -⟩ := Prod.mk.inj mapped
    cases visited
    obtain ⟨written, parts, columnRead, isName⟩ :=
      naming.columns_spelled property name (Descriptor.get?_of_column column)
    exact ⟨Nat.le_refl _, written, columnRead, fun ordinal member =>
      absurd member (isName.parameter_notMem ordinal)⟩
  | value source =>
    obtain ⟨produced, _, -, visited⟩ := Work.perform_bind_ok visited
    obtain ⟨type, _, -, visited⟩ := Work.perform_bind_ok visited
    cases visited
    have noDigit : ∀ c ∈ following.head?, c.isDigit = false := fun c first =>
      (boundary_ends (apart c first)).2.1
    refine ⟨by simp, _, tokens_placeholder (small_of_tokens noDigit read), fun ordinal member => ?_⟩
    obtain rfl : ordinal = bound.length := by simpa using member
    simp
  | binary op left right leftHypothesis rightHypothesis =>
    obtain ⟨leftPart, rightPart, middleBound, lastBound, middle, visitLeft, visitRight, formed, rfl,
      rfl⟩ := Predicate.visit_binary_ok visited
    have sized : (Predicate.relate op leftPart rightPart lastBound).length = lastBound.length := by
      simpa [boundValues] using
        congrArg List.length (Predicate.boundValues_relate op leftPart rightPart lastBound)
    -- What follows each piece starts apart, so each piece has tokens of its own.
    have shape : (Fragment.join op leftPart rightPart).text.toList ++ following =
        '(' :: (leftPart.text.toList ++ ' ' :: (op.sql.toList ++ ' ' ::
          (rightPart.text.toList ++ ')' :: following))) := by
      simp [Fragment.join, Fragment.text]
    have opening (rest : List Char) : lexeme '(' rest = .ok (.leftParen, rest) := rfl
    rw [shape, tokens_cons (by decide) (opening _)] at read
    obtain ⟨inside, read, -⟩ := Checked.map_ok read
    obtain ⟨leftGrows, first, readLeft, leftWithin⟩ :=
      leftHypothesis visitLeft (startsApart_cons (by decide) _) read
    rw [tokens_append (startsApart_cons (by decide) _) readLeft, tokens_blank] at read
    obtain ⟨afterLeft, read, -⟩ := Checked.map_ok read
    rw [tokens_append (startsApart_cons (by decide) _) (Predicate.tokens_operator formed),
      tokens_blank] at read
    obtain ⟨afterOperator, read, -⟩ := Checked.map_ok read
    obtain ⟨rightGrows, second, readRight, rightWithin⟩ :=
      rightHypothesis visitRight (startsApart_cons (by decide) _) read
    refine ⟨by omega, _, Predicate.tokens_join formed readLeft readRight, fun ordinal member => ?_⟩
    have either : .parameter ordinal ∈ first ∨ .parameter ordinal ∈ second := by
      have other : .parameter ordinal ≠ Predicate.operatorToken op := by
        cases op <;> simp [Predicate.operatorToken]
      simpa [other] using member
    rcases either with inLeft | inRight
    · have inside := leftWithin ordinal inLeft
      omega
    · have inside := rightWithin ordinal inRight
      omega
  | negation inner _ => simp [Predicate.visit] at visited

/-- **A statement that goes on from a compiled filter picks the rows that the filter selects**,
whatever values it binds after those of the filter. -/
theorem picks_eq_selects (naming : Naming descriptor) {predicate : Predicate ε} {filter : Clause}
    {surroundings after : ε}
    (compiled : (predicate.compile descriptor).perform surroundings = (.ok filter, after))
    {condition : Condition} {semicolons : Nat} (spells : filter.Spells condition semicolons)
    {parameters : List Parameter}
    (goesOn : boundValues filter.parameters <+: boundValues parameters) (table : Table) :
    picks parameters table (some condition) = filter.selects table := by
  rw [Predicate.compile] at compiled
  obtain ⟨⟨part, later⟩, _, visited, compiled⟩ := Work.perform_bind_ok compiled
  cases compiled
  have read : tokens (part.text.toList ++ []) =
      .ok (spells.tokens ++ List.replicate semicolons .semicolon) := by
    rw [List.append_nil]
    exact spells.read
  have apart : StartsApart [] := by simp [StartsApart]
  obtain ⟨-, written, readPart, within⟩ := naming.visit_placeholders visited apart read
  rw [List.append_nil, readPart] at read
  cases read
  rw [spells.selects_eq, picks_prefix goesOn]
  intro ordinal compared
  exact within ordinal (List.mem_append_left _ (spells.spelled.parameter_mem compared))

end Lifecycle.Naming

end RowPayload
