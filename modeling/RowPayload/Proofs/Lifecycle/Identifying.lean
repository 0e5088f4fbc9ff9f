import RowPayload.Proofs.Lifecycle.Binding
import RowPayload.Proofs.Lifecycle.Listing

/-!
# Filters by the identifier

The filter by the identifier compares one column with one value. If its column is written as a
name, it selects the rows whose value in the column equals the value, as SQL sees it. A column
that is written as the word for null is no exception to the grammar: then the filter compares
null with the value, and selects no row at all.
-/

namespace RowPayload

open Engine Sql

variable {ε : Type} {descriptor : Descriptor}

/-! ## Conditions that compare a name with a placeholder -/

/-- Tokens spell one condition at most. -/
theorem Sql.IsCondition.unique {tokens : List Token} {condition other : Condition}
    (first : IsCondition .alternative tokens condition)
    (second : IsCondition .alternative tokens other) : condition = other := by
  have noDot : ([] : List Token).head? ≠ some .dot := nofun
  have readFirst := first.readsRank [] condition [] noDot rfl (moreDisjuncts_nil rfl)
  have readSecond := second.readsRank [] other [] noDot rfl (moreDisjuncts_nil rfl)
  exact (readFirst.unique readSecond).1

/-- No condition is read where no atom is. -/
theorem Sql.disjunction_error {input : List Token} {fault : SyntaxFault}
    (failed : atom input = .error fault) : disjunction input = .error fault := by
  rw [disjunction, conjunction, failed]

/-- A comparison in parentheses that starts with the word for null and a dot is none. -/
theorem Sql.IsCondition.null_dot {token : Token} (isNull : token.isKeyword "NULL" = true)
    {others : List Token} {condition : Condition} :
    ¬ IsCondition .alternative (.leftParen :: token :: .dot :: others) condition := by
  intro spelled
  have noDot : ([] : List Token).head? ≠ some .dot := nofun
  obtain ⟨_, read⟩ := spelled.readsRank [] condition [] noDot rfl (moreDisjuncts_nil rfl)
  have noParen : ∀ inside, token :: .dot :: (others ++ []) ≠ .leftParen :: inside := by
    rintro inside ⟨⟩
    cases isNull
  have place : operand (token :: .dot :: (others ++ [])) =
      .ok (.null, ⟨.dot :: (others ++ []), Nat.lt_succ_self _⟩) := by
    cases token with
    | word letters => simp only [operand, afterKeyword?_cons isNull]
    | _ => cases isNull
  have inside : atom (token :: .dot :: (others ++ [])) =
      .error (.expectedToken .equals (some .dot)) := by
    rw [atom_equal noParen, place]
    rfl
  have outside : atom (.leftParen :: token :: .dot :: (others ++ [])) =
      .error (.expectedToken .equals (some .dot)) := by
    rw [atom, disjunction_error inside]
  have failed : disjunction (.leftParen :: token :: .dot :: others ++ []) =
      .error (.expectedToken .equals (some .dot)) :=
    disjunction_error outside
  cases failed.symm.trans read

/-- A comparison of a name with a placeholder, in parentheses, compares the column that the name is,
or null if the name is the word for it. -/
theorem Sql.IsCondition.of_comparison {column : List Token} {parts : List String}
    (isName : IsName column parts) {ordinal : Nat} {condition : Condition}
    (spelled : IsCondition .alternative
      (.leftParen :: (column ++ Token.equals :: [.parameter ordinal, .rightParen])) condition) :
    condition = .equal (.column (parts.getLastD "")) (.parameter ordinal) ∨
      condition = .equal .null (.parameter ordinal) := by
  have compares {left : Operand} (isLeft : IsOperand column left) :
      condition = .equal left (.parameter ordinal) := by
    have inside : IsCondition .alternative (column ++ Token.equals :: [Token.parameter ordinal])
        (.equal left (.parameter ordinal)) :=
      .oneConjunction (.oneAtom (.equal isLeft (.parameter ordinal)))
    have whole : IsCondition .alternative
        (.leftParen :: ((column ++ Token.equals :: [.parameter ordinal]) ++ [.rightParen]))
        (.equal left (.parameter ordinal)) :=
      .oneConjunction (.oneAtom (.parens inside))
    rw [List.append_assoc] at whole
    exact spelled.unique whole
  cases keyword : startsWith "NULL" column with
  | false => exact .inl (compares (.column (.ofName isName) keyword))
  | true =>
    cases isName with
    | last isPart => exact .inr (compares (.null keyword))
    | more isPart others => exact absurd spelled (null_dot keyword)

/-! ## The filter by the identifier -/

/-- A property that is compared with a value is compiled to an equality of its column with a
placeholder, and the surroundings have no part in it. -/
theorem Predicate.compile_columnEquals {property : String} {value : Value}
    {surroundings later : ε} {filter : Clause}
    (compiled : ((columnEquals property value : Predicate ε).compile descriptor).perform
      surroundings = (.ok filter, later)) :
    ∃ column, descriptor.columns.get? property = some column ∧
      filter.sql = (Fragment.join .equal (.column column) (.parameter 0)).text ∧
      boundValues filter.parameters = [value] ∧ later = surroundings := by
  rw [compile] at compiled
  obtain ⟨⟨part, bound⟩, _, visited, compiled⟩ := Work.perform_bind_ok compiled
  cases compiled
  obtain ⟨_, _, _, _, _, visitLeft, visitRight, -, rfl, rfl⟩ := visit_binary_ok visited
  obtain ⟨column, _, mapped, visitLeft⟩ := Work.perform_bind_ok visitLeft
  obtain ⟨found, rfl⟩ := Prod.mk.inj mapped
  cases visitLeft
  obtain ⟨produced, _, produces, visitRight⟩ := Work.perform_bind_ok visitRight
  cases produces
  obtain ⟨type, _, infers, visitRight⟩ := Work.perform_bind_ok visitRight
  obtain ⟨-, rfl⟩ := Prod.mk.inj infers
  cases visitRight
  refine ⟨column, Descriptor.get?_of_column found, rfl, ?_, rfl⟩
  rw [boundValues_relate]
  rfl

/-- The filter by the identifier compares it with a value. -/
theorem Predicate.identity_ok {value : Value} {predicate : Predicate ε}
    (identifies : identity descriptor value = .ok predicate) :
    ∃ identifier, descriptor.identifier = some identifier ∧
      predicate = columnEquals identifier value := by
  obtain ⟨identifier, required, rfl⟩ := Checked.map_ok identifies
  unfold Descriptor.requireIdentifier at required
  split at required
  · cases required
    exact ⟨identifier, ‹_›, rfl⟩
  · cases required

namespace Lifecycle.Naming

/-- What the filter by the identifier, if it is a condition, selects: no row, or the rows of any
table whose value in the column of the identifier equals the value. -/
theorem identity_selects (naming : Naming descriptor) {value : Value} {predicate : Predicate ε}
    (identifies : Predicate.identity descriptor value = .ok predicate) {filter : Clause}
    {surroundings later : ε}
    (compiled : (predicate.compile descriptor).perform surroundings = (.ok filter, later))
    {condition : Condition} {semicolons : Nat} (spells : filter.Spells condition semicolons) :
    (∀ table row, filter.selects table row = false) ∨
      ∀ identifier, descriptor.identifier = some identifier →
        ∀ (table : Table) column, descriptor.place? table identifier = some column →
          ∀ row, filter.selects table row = (row.cell column).sqlEqual value := by
  obtain ⟨identifier, known, rfl⟩ := Predicate.identity_ok identifies
  obtain ⟨column, mapped, sql, binds, -⟩ := Predicate.compile_columnEquals compiled
  obtain ⟨columnTokens, parts, columnRead, isName⟩ :=
    naming.columns_spelled identifier column mapped
  have written : tokenize filter.sql =
      .ok (.leftParen :: (columnTokens ++ Token.equals :: [.parameter 0, .rightParen])) := by
    have readLeft : tokens (Fragment.column column).text.toList = .ok columnTokens := columnRead
    have readRight : tokens (Fragment.parameter 0).text.toList = .ok [.parameter 0] :=
      tokens_placeholder (by decide)
    have formed : Predicate.hasForm .equal = true := rfl
    rw [sql]
    exact Predicate.tokens_join formed readLeft readRight
  -- The text ends with a parenthesis, so there are no semicolons after the condition.
  have spelled : IsCondition .alternative
      (.leftParen :: (columnTokens ++ Token.equals :: [.parameter 0, .rightParen])) condition := by
    have same := Except.ok.inj (spells.read.symm.trans written)
    cases semicolons with
    | zero =>
      rw [List.replicate_zero, List.append_nil] at same
      exact same ▸ spells.spelled
    | succ fewer =>
      have ends : .leftParen :: (columnTokens ++ Token.equals :: [.parameter 0, .rightParen]) =
          .leftParen :: (columnTokens ++ [Token.equals, .parameter 0]) ++ [Token.rightParen] := by
        simp
      rw [ends, List.replicate_succ', ← List.append_assoc] at same
      cases List.append_inj_right' same rfl
  have bound : parameterValue filter.parameters 0 = .ok value :=
    parameterValue_of_boundValues (by rw [binds]; rfl)
  rcases spelled.of_comparison isName with rfl | rfl
  · refine .inr fun own same table place placed row => ?_
    obtain rfl : own = identifier := Option.some.inj (same.symm.trans known)
    have found : table.columnIndex (parts.getLastD "") = .ok place := by
      simp only [Descriptor.place?, mapped, Option.bind_eq_bind, Option.bind_some,
        columnName?_of_name columnRead isName] at placed
      exact Checked.eq_ok_of_toOption placed
    rw [spells.selects_eq]
    apply picks_of_passes
    simp only [passes, holds, operandValue, columnValue, found, bound, bind, Except.bind,
      Except.map]
    rfl
  · refine .inl fun table row => ?_
    rw [spells.selects_eq]
    apply picks_of_passes
    simp only [passes, holds, operandValue, bound, bind, Except.bind]
    rfl

end Lifecycle.Naming

end RowPayload
