import Mathlib
import RowPayload.Engine.Condition
import RowPayload.Predicate.Compile
import RowPayload.Proofs.Mapping.Quoting
import RowPayload.Proofs.Sample
import RowPayload.Proofs.Sql.Reading
import RowPayload.Proofs.Sql.Tokens
import RowPayload.Proofs.Work.Laws

/-!
# What a compiled filter means

A filter that is built from equalities has a truth value on each row, found by going
through the filter itself. The same filter, compiled to text, split into tokens, parsed
and evaluated by the engine, has the same truth value: the text is one atom of the
grammar, its placeholders are bound to the values of the filter, and its bracketed names
lead to the columns of the properties.
-/

namespace RowPayload

open Engine (Table TableRow operandValue columnValue holds passes)
open Sql (Token Operand Condition tokens)

/-! ## Truth -/

namespace Predicate

variable {ε : Type}

/-- A property or a value. -/
inductive IsLeaf : Predicate ε → Prop where
  | column (property : String) : IsLeaf (.column property)
  | value (source : ValueSource ε) : IsLeaf (.value source)

/-- A filter built from equalities of leaves by conjunctions and alternatives. -/
inductive IsBoolean : Predicate ε → Prop where
  | equal {left right : Predicate ε} (isLeft : IsLeaf left) (isRight : IsLeaf right) :
      IsBoolean (.binary .equal left right)
  | both {left right : Predicate ε} (isLeft : IsBoolean left) (isRight : IsBoolean right) :
      IsBoolean (.binary .conjunction left right)
  | either {left right : Predicate ε} (isLeft : IsBoolean left) (isRight : IsBoolean right) :
      IsBoolean (.binary .disjunction left right)

/-- The properties a filter names. -/
def properties : Predicate ε → List String
  | .column property => [property]
  | .value _ => []
  | .binary _ left right => left.properties ++ right.properties
  | .negation inner => inner.properties

/-- The value of a leaf, given the value of each property. -/
def leafValue (cell : String → Value) : Predicate ε → StateM ε Value
  | .column property => return cell property
  | .value source => (source.evaluate : StateM ε Value)
  | _ => return .null

/-- Whether a filter holds, given the value of each property. Every source is evaluated
once and from left to right, also where the left operand settles the matter. -/
def truth (cell : String → Value) : Predicate ε → StateM ε Bool
  | .binary .equal left right => do
    let leftValue ← left.leafValue cell
    let rightValue ← right.leafValue cell
    return leftValue.sqlEqual rightValue
  | .binary .conjunction left right => do
    let leftTruth ← left.truth cell
    let rightTruth ← right.truth cell
    return leftTruth && rightTruth
  | .binary .disjunction left right => do
    let leftTruth ← left.truth cell
    let rightTruth ← right.truth cell
    return leftTruth || rightTruth
  | _ => return false

end Predicate

/-! ## Columns -/

/-- A column that a property has is the one it is mapped to. -/
theorem Descriptor.get?_of_column {descriptor : Descriptor} {property column : String}
    (found : descriptor.column property = .ok column) :
    descriptor.columns.get? property = some column := by
  unfold Descriptor.column at found
  split at found
  · rename_i known
    cases found
    exact known
  · cases found

/-- A property is stored in the column at a place of a table: it is mapped to a name in
brackets, and the column is the first one with that name, whatever the case of its
letters. -/
def Descriptor.StoredAt (descriptor : Descriptor) (table : Table) (property : String)
    (place : Nat) : Prop :=
  ∃ name : String, descriptor.columns.get? property = some ("[" ++ name ++ "]") ∧
    ']' ∉ name.toList ∧
    table.columns.findIdx? (fun column => Text.sameLetters column.name name) = some place

/-- A column is found by a name without a closing bracket. -/
theorem Engine.Table.columnIndex_of_findIdx? {table : Table} {name : String} {place : Nat}
    (closed : ']' ∉ name.toList)
    (found : table.columns.findIdx? (fun column => Text.sameLetters column.name name) =
      some place) :
    table.columnIndex name = .ok place := by
  rw [columnIndex_eq_ok_iff, Bracket.strip_of_not_mem closed, found]

/-! ## Parameters -/

/-- The values that parameters bind, in the order of their ordinals. -/
def boundValues (parameters : List Parameter) : List Value := parameters.map Parameter.value

/-- The value of a parameter is the one bound under its ordinal. -/
theorem Engine.parameterValue_of_boundValues {parameters : List Parameter} {ordinal : Nat}
    {value : Value} (bound : (boundValues parameters)[ordinal]? = some value) :
    parameterValue parameters ordinal = .ok value := by
  rw [boundValues, List.getElem?_map, Option.map_eq_some_iff] at bound
  obtain ⟨parameter, found, rfl⟩ := bound
  rw [parameterValue, found]

/-- Noting columns changes no values. -/
theorem Predicate.boundValues_relate (op : BinaryOperator) (left right : Fragment)
    (bound : List Parameter) : boundValues (relate op left right bound) = boundValues bound := by
  have noted (column : String) (ordinal : Nat) :
      boundValues (noteColumn column ordinal bound) = boundValues bound := by
    apply List.ext_getElem?
    intro place
    simp only [boundValues, noteColumn, List.getElem?_map, List.getElem?_modify]
    cases bound[place]? with
    | none => rfl
    | some parameter => by_cases here : ordinal = place <;> simp [here]
  unfold relate
  split
  · exact noted _ _
  · exact noted _ _
  · rfl

/-- Producing a value evaluates its source. -/
@[simp] theorem ValueSource.perform_produce {ε : Type} (source : ValueSource ε)
    (surroundings : ε) :
    source.produce.perform surroundings =
      (.ok (source.evaluate surroundings).1, (source.evaluate surroundings).2) := rfl

/-! ## Compiled parts -/

namespace Predicate

variable {ε : Type} {descriptor : Descriptor} {table : Table} {place : String → Nat}
variable {bound later : List Parameter} {surroundings after : ε} {part : Fragment}

/-- The value of each property on a row, by the places of the columns. -/
def cells (place : String → Nat) (row : TableRow) (property : String) : Value :=
  row.cell (place property)

/-- A part is spelled by tokens of a tree, and the tree evaluates on every row to what the
compiled filter is worth there, with any parameters that go on with those bound so far.
Working out the worth changes the surroundings as compiling did. -/
def Renders {γ α : Type} (spells : List Token → γ → Prop)
    (evaluate : γ → List Parameter → TableRow → Except Engine.Failure α)
    (worth : TableRow → StateM ε α) (part : Fragment) (bound later : List Parameter)
    (surroundings after : ε) : Prop :=
  boundValues bound <+: boundValues later ∧
  ∃ written tree, tokens part.text.toList = .ok written ∧ spells written tree ∧
    ∀ row parameters, boundValues later <+: boundValues parameters →
      ∃ value, (worth row).run surroundings = (value, after) ∧
        evaluate tree parameters row = .ok value

/-- What an operand evaluates to on a row. -/
def operandOn (table : Table) (operand : Operand) (parameters : List Parameter)
    (row : TableRow) : Except Engine.Failure Value :=
  operandValue parameters (columnValue table row) operand

/-- What a condition evaluates to on a row. -/
def conditionOn (table : Table) (condition : Condition) (parameters : List Parameter)
    (row : TableRow) : Except Engine.Failure Bool :=
  passes parameters table (some condition) row

/-- A compiled leaf is spelled by one token, an operand with the leaf's value. -/
theorem visit_leaf {leaf : Predicate ε} (isLeaf : leaf.IsLeaf)
    (stored : ∀ property ∈ leaf.properties, descriptor.StoredAt table property (place property))
    (visited : (visit descriptor leaf bound).perform surroundings = (.ok (part, later), after))
    (few : (boundValues later).length ≤ Placeholder.ordinalBound) :
    Renders Sql.IsOperand (operandOn table) (fun row => leaf.leafValue (cells place row)) part
      bound later surroundings after := by
  cases isLeaf with
  | column property =>
    obtain ⟨name, mapped, closed, found⟩ := stored property (by simp [properties])
    have column : descriptor.column property = .ok ("[" ++ name ++ "]") := by
      rw [Descriptor.column, mapped]
    simp only [visit, column, Work.perform_bind, Work.perform_lift, Work.perform_pure] at visited
    cases visited
    refine ⟨List.prefix_rfl, [.quoted name], .column name, ?_, ?_, ?_⟩
    · rw [Fragment.text, Sql.toList_bracketed, Sql.tokens_bracketed closed, String.ofList_toList]
    · exact .column (.ofName (.last (.quoted name))) rfl
    · intro row parameters _
      refine ⟨row.cell (place property), rfl, ?_⟩
      rw [operandOn, operandValue, columnValue, Engine.Table.columnIndex_of_findIdx? closed found]
      rfl
  | value source =>
    cases inferred : SqlType.infer (source.evaluate surroundings).1 with
    | error fault =>
      simp [visit, Work.perform_bind, inferred, Except.map] at visited
    | ok type =>
      simp only [visit, Work.perform_bind, ValueSource.perform_produce, Work.perform_lift,
        inferred, Work.perform_pure] at visited
      cases visited
      have small : bound.length < Placeholder.ordinalBound := by
        simp only [boundValues, List.length_map, List.length_append, List.length_singleton] at few
        omega
      refine ⟨?_, [.parameter bound.length], .parameter bound.length, ?_, .parameter _, ?_⟩
      · exact ⟨[(source.evaluate surroundings).1], by simp [boundValues, Parameter.make]⟩
      · exact Sql.tokens_placeholder small
      · intro row parameters binds
        refine ⟨(source.evaluate surroundings).1, rfl, ?_⟩
        apply Engine.parameterValue_of_boundValues
        obtain ⟨others, equal⟩ := binds
        rw [← equal]
        simp [boundValues, Parameter.make]

/-- The tokens of an operator. -/
def operatorToken : BinaryOperator → Token
  | .conjunction => .word "AND"
  | .disjunction => .word "OR"
  | _ => .equals

/-- An operator with a compiled form is one token. -/
theorem tokens_operator {op : BinaryOperator} (formed : hasForm op = true) :
    tokens op.sql.toList = .ok [operatorToken op] := by
  cases op with
  | equal | conjunction | disjunction => cbv
  | _ => cases formed

/-- The tokens of two parts joined by an operator are those of the parts, with the operator
between them and parentheses around all. -/
theorem tokens_join {op : BinaryOperator} (formed : hasForm op = true) {left right : Fragment}
    {first second : List Token} (readLeft : tokens left.text.toList = .ok first)
    (readRight : tokens right.text.toList = .ok second) :
    tokens (Fragment.join op left right).text.toList =
      .ok (.leftParen :: (first ++ operatorToken op :: (second ++ [.rightParen]))) := by
  have closing : tokens (right.text.toList ++ [')']) = .ok (second ++ [.rightParen]) := by
    refine Sql.tokens_pieces ?_ readRight (by cbv)
    rintro c ⟨⟩
    decide
  have inside := Sql.tokens_spaced readLeft (Sql.tokens_spaced (tokens_operator formed) closing)
  have shape : (Fragment.join op left right).text.toList =
      '(' :: (left.text.toList ++ ' ' :: (op.sql.toList ++ ' ' ::
        (right.text.toList ++ [')']))) := by
    simp [Fragment.join, Fragment.text]
  have opening (rest : List Char) : Sql.lexeme '(' rest = .ok (.leftParen, rest) := rfl
  rw [shape, Sql.tokens_cons (by decide) (opening _), inside]
  rfl

/-- What visiting an operator has done that did not fail. -/
theorem visit_binary_ok {op : BinaryOperator} {left right : Predicate ε}
    (visited : (visit descriptor (.binary op left right) bound).perform surroundings =
      (.ok (part, later), after)) :
    ∃ leftPart rightPart middleBound lastBound middle,
      (visit descriptor left bound).perform surroundings = (.ok (leftPart, middleBound), middle) ∧
      (visit descriptor right middleBound).perform middle = (.ok (rightPart, lastBound), after) ∧
      hasForm op = true ∧ part = Fragment.join op leftPart rightPart ∧
      later = relate op leftPart rightPart lastBound := by
  rw [visit] at visited
  obtain ⟨⟨leftPart, middleBound⟩, middle, visitLeft, visited⟩ := Work.perform_bind_ok visited
  obtain ⟨⟨rightPart, lastBound⟩, last, visitRight, visited⟩ := Work.perform_bind_ok visited
  cases formed : hasForm op with
  | false => simp [formed] at visited
  | true =>
    simp only [formed, if_true, Work.perform_pure, Prod.mk.injEq, Except.ok.injEq] at visited
    obtain ⟨⟨rfl, rfl⟩, rfl⟩ := visited
    exact ⟨leftPart, rightPart, middleBound, lastBound, middle, visitLeft, visitRight, rfl, rfl, rfl⟩

/-- The properties of a filter that compiles are mapped. -/
theorem mapped_of_visit {predicate : Predicate ε}
    (visited : (visit descriptor predicate bound).perform surroundings =
      (.ok (part, later), after)) :
    ∀ property ∈ predicate.properties, descriptor.columns.contains property = true := by
  induction predicate generalizing bound later part surroundings after with
  | column property =>
    intro other member
    obtain rfl : other = property := by simpa [properties] using member
    rw [visit] at visited
    obtain ⟨name, middle, found, -⟩ := Work.perform_bind_ok visited
    cases mapped : descriptor.columns.get? other with
    | none => simp [Descriptor.column, mapped] at found
    | some column => rw [OrderedMap.contains, mapped, Option.isSome_some]
  | value source => simp [properties]
  | binary op left right leftHypothesis rightHypothesis =>
    obtain ⟨_, _, _, _, _, visitLeft, visitRight, -⟩ := visit_binary_ok visited
    intro property member
    rcases List.mem_append.1 member with inLeft | inRight
    · exact leftHypothesis visitLeft property inLeft
    · exact rightHypothesis visitRight property inRight
  | negation inner _ => simp [visit] at visited

/-- An equality holds if the values of its operands are equal. -/
theorem holds_equal {value : Operand → Except Engine.Failure Value} {left right : Operand}
    {leftValue rightValue : Value} (leftIs : value left = .ok leftValue)
    (rightIs : value right = .ok rightValue) :
    holds value (.equal left right) = .ok (leftValue.sqlEqual rightValue) := by
  rw [holds, leftIs, rightIs]
  rfl

/-- A conjunction holds if both of its sides do. -/
theorem holds_both {value : Operand → Except Engine.Failure Value} {left right : Condition}
    {leftHolds rightHolds : Bool} (leftIs : holds value left = .ok leftHolds)
    (rightIs : holds value right = .ok rightHolds) :
    holds value (.both left right) = .ok (leftHolds && rightHolds) := by
  rw [holds, leftIs, rightIs]
  cases leftHolds <;> rfl

/-- An alternative holds if one of its sides does. -/
theorem holds_either {value : Operand → Except Engine.Failure Value} {left right : Condition}
    {leftHolds rightHolds : Bool} (leftIs : holds value left = .ok leftHolds)
    (rightIs : holds value right = .ok rightHolds) :
    holds value (.either left right) = .ok (leftHolds || rightHolds) := by
  rw [holds, leftIs, rightIs]
  cases leftHolds <;> rfl

/-- Two parts joined by an operator render the combination of what they are worth, if the
operator spells it and evaluates to it. -/
theorem Renders.join {γ α : Type} {spells : List Token → γ → Prop}
    {evaluate : γ → List Parameter → TableRow → Except Engine.Failure α}
    {leftWorth rightWorth : TableRow → StateM ε α} {leftPart rightPart : Fragment}
    {middleBound : List Parameter} {middle : ε}
    (left : Renders spells evaluate leftWorth leftPart bound middleBound surroundings middle)
    (right : Renders spells evaluate rightWorth rightPart middleBound later middle after)
    {op : BinaryOperator} (formed : hasForm op = true) (make : γ → γ → Condition)
    (combine : α → α → Bool)
    (spelled : ∀ {first second leftTree rightTree}, spells first leftTree →
      spells second rightTree → Sql.IsCondition .atom
        (.leftParen :: (first ++ operatorToken op :: second ++ [.rightParen]))
        (make leftTree rightTree))
    (evaluated : ∀ {leftTree rightTree parameters row leftValue rightValue},
      evaluate leftTree parameters row = .ok leftValue →
      evaluate rightTree parameters row = .ok rightValue →
      conditionOn table (make leftTree rightTree) parameters row =
        .ok (combine leftValue rightValue)) :
    Renders (Sql.IsCondition .atom) (conditionOn table)
      (fun row => do
        let leftValue ← leftWorth row
        let rightValue ← rightWorth row
        return combine leftValue rightValue)
      (Fragment.join op leftPart rightPart) bound later surroundings after := by
  obtain ⟨leftGoesOn, first, leftTree, readLeft, leftSpelled, leftValue⟩ := left
  obtain ⟨rightGoesOn, second, rightTree, readRight, rightSpelled, rightValue⟩ := right
  refine ⟨leftGoesOn.trans rightGoesOn, _, make leftTree rightTree,
    tokens_join formed readLeft readRight, ?_, ?_⟩
  · have joined := spelled leftSpelled rightSpelled
    rwa [List.append_assoc, List.cons_append] at joined
  · intro row parameters binds
    obtain ⟨leftIs, leftFound, leftEvaluated⟩ := leftValue row parameters (rightGoesOn.trans binds)
    obtain ⟨rightIs, rightFound, rightEvaluated⟩ := rightValue row parameters binds
    refine ⟨combine leftIs rightIs, ?_, evaluated leftEvaluated rightEvaluated⟩
    rw [StateT.run_bind, leftFound]
    show ((rightWorth row >>= fun rightValue => pure (combine leftIs rightValue)).run middle) = _
    rw [StateT.run_bind, rightFound]
    rfl

/-- An operator renders the combination of what its operands are worth. -/
theorem visit_binary {γ α : Type} {spells : List Token → γ → Prop}
    {evaluate : γ → List Parameter → TableRow → Except Engine.Failure α}
    {leftWorth rightWorth : TableRow → StateM ε α} {op : BinaryOperator}
    {left right : Predicate ε}
    (visited : (visit descriptor (.binary op left right) bound).perform surroundings =
      (.ok (part, later), after))
    (few : (boundValues later).length ≤ Placeholder.ordinalBound)
    (leftRenders : ∀ {later part after},
      (visit descriptor left bound).perform surroundings = (.ok (part, later), after) →
      (boundValues later).length ≤ Placeholder.ordinalBound →
      Renders spells evaluate leftWorth part bound later surroundings after)
    (rightRenders : ∀ {bound later part surroundings after},
      (visit descriptor right bound).perform surroundings = (.ok (part, later), after) →
      (boundValues later).length ≤ Placeholder.ordinalBound →
      Renders spells evaluate rightWorth part bound later surroundings after)
    (make : γ → γ → Condition) (combine : α → α → Bool)
    (spelled : ∀ {first second leftTree rightTree}, spells first leftTree →
      spells second rightTree → Sql.IsCondition .atom
        (.leftParen :: (first ++ operatorToken op :: second ++ [.rightParen]))
        (make leftTree rightTree))
    (evaluated : ∀ {leftTree rightTree parameters row leftValue rightValue},
      evaluate leftTree parameters row = .ok leftValue →
      evaluate rightTree parameters row = .ok rightValue →
      conditionOn table (make leftTree rightTree) parameters row =
        .ok (combine leftValue rightValue)) :
    Renders (Sql.IsCondition .atom) (conditionOn table)
      (fun row => do
        let leftValue ← leftWorth row
        let rightValue ← rightWorth row
        return combine leftValue rightValue)
      part bound later surroundings after := by
  obtain ⟨leftPart, rightPart, middleBound, lastBound, middle, visitLeft, visitRight, formed, rfl,
    rfl⟩ := visit_binary_ok visited
  have same := boundValues_relate op leftPart rightPart lastBound
  rw [same] at few
  have rightRendered := rightRenders visitRight few
  have leftRendered := leftRenders visitLeft (Nat.le_trans rightRendered.1.length_le few)
  rw [Renders, same]
  exact leftRendered.join rightRendered formed make combine spelled evaluated

/-- **A compiled filter is spelled by an atom that has the filter's truth value** on every
row. -/
theorem visit_boolean {predicate : Predicate ε} (boolean : predicate.IsBoolean)
    (stored : ∀ property ∈ predicate.properties,
      descriptor.StoredAt table property (place property))
    (visited : (visit descriptor predicate bound).perform surroundings =
      (.ok (part, later), after))
    (few : (boundValues later).length ≤ Placeholder.ordinalBound) :
    Renders (Sql.IsCondition .atom) (conditionOn table)
      (fun row => predicate.truth (cells place row)) part bound later surroundings after := by
  -- The values bound before a subtree are those that its placeholders count on from.
  induction boolean generalizing bound later part surroundings after with
  | @equal left right isLeft isRight =>
    refine visit_binary visited few
      (visit_leaf isLeft fun property member => stored property (List.mem_append_left _ member))
      (visit_leaf isRight fun property member => stored property (List.mem_append_right _ member))
      .equal Value.sqlEqual (fun isLeft isRight => ?_) holds_equal
    exact .parens (.oneConjunction (.oneAtom (.equal isLeft isRight)))
  | @both left right _ _ leftHypothesis rightHypothesis =>
    refine visit_binary visited few
      (leftHypothesis fun property member => stored property (List.mem_append_left _ member))
      (rightHypothesis fun property member => stored property (List.mem_append_right _ member))
      .both and (fun isLeft isRight => ?_) holds_both
    exact .parens (.oneConjunction (.both (.oneAtom isLeft) (by cbv) isRight))
  | @either left right _ _ leftHypothesis rightHypothesis =>
    refine visit_binary visited few
      (leftHypothesis fun property member => stored property (List.mem_append_left _ member))
      (rightHypothesis fun property member => stored property (List.mem_append_right _ member))
      .either or (fun isLeft isRight => ?_) holds_either
    exact .parens (.either (.oneConjunction (.oneAtom isLeft)) (by cbv) (.oneAtom isRight))

/-- The properties of a filter that has a clause are mapped. -/
theorem mapped_of_compile {predicate : Predicate ε} {clause : Clause}
    (compiled : (predicate.compile descriptor).perform surroundings = (.ok clause, after)) :
    ∀ property ∈ predicate.properties, descriptor.columns.contains property = true := by
  rw [compile] at compiled
  obtain ⟨⟨part, later⟩, middle, visited, -⟩ := Work.perform_bind_ok compiled
  exact mapped_of_visit visited

/-- A compiled clause renders its filter. -/
theorem compile_renders {predicate : Predicate ε} (boolean : predicate.IsBoolean)
    (stored : ∀ property ∈ predicate.properties,
      descriptor.StoredAt table property (place property)) {clause : Clause}
    (compiled : (predicate.compile descriptor).perform surroundings = (.ok clause, after))
    (few : clause.parameters.length ≤ Placeholder.ordinalBound) :
    Renders (Sql.IsCondition .atom) (conditionOn table)
      (fun row => predicate.truth (cells place row)) (.sql clause.sql) [] clause.parameters
      surroundings after := by
  rw [compile] at compiled
  obtain ⟨⟨part, later⟩, middle, visited, compiled⟩ := Work.perform_bind_ok compiled
  rw [Work.perform_pure] at compiled
  cases compiled
  apply visit_boolean boolean stored visited
  rwa [boundValues, List.length_map]

end Predicate

/-- A selection of rows by a condition that is one atom. -/
theorem Sql.parse_selection {text : String} {written : List Token} {condition : Condition}
    (read : tokens text.toList = .ok written) (isCondition : IsCondition .atom written condition) :
    parse ("SELECT 1 FROM t WHERE " ++ text) = .ok (.select ⟨[.one], "t", some condition⟩) := by
  have opening : Sealed "SELECT 1 FROM t WHERE "
      [.word "SELECT", .number 1, .word "FROM", .word "t", .word "WHERE"] :=
    sealed_of_blank "SELECT 1 FROM t WHERE" rfl (by cbv)
  have isFilter : IsFilter (.word "WHERE" :: written) (some condition) :=
    .present (by cbv) (.oneConjunction (.oneAtom isCondition))
  have isSelection : IsSelection
      (.number 1 :: .word "FROM" :: .word "t" :: .word "WHERE" :: written)
      ⟨[.one], "t", some condition⟩ :=
    .mk (.last .one) (by cbv) (.last (.word "t")) isFilter
  exact IsStatement.parse (opening.tokenize_append read) (.select (by cbv) isSelection)

/-- **Compiling a filter keeps its meaning.** If a filter built from equalities compiles for
properties stored in bracketed columns of a table, the text is accepted as the condition of a
selection, and the condition evaluates on every row, with the parameters bound, to the truth
value of the filter. A place among the parameters is a machine word, so there are no more of
them than words. -/
theorem compiled_filter_keeps_meaning {ε : Type} {descriptor : Descriptor} {table : Table}
    {place : String → Nat} {predicate : Predicate ε} (boolean : predicate.IsBoolean)
    (stored : ∀ property ∈ predicate.properties,
      descriptor.StoredAt table property (place property))
    {surroundings after : ε} {clause : Clause}
    (compiled : (predicate.compile descriptor).perform surroundings = (.ok clause, after))
    (few : clause.parameters.length ≤ Placeholder.ordinalBound) :
    ∃ condition, Sql.parse ("SELECT 1 FROM t WHERE " ++ clause.sql) =
        .ok (.select ⟨[.one], "t", some condition⟩) ∧
      ∀ row, ∃ holding,
        (predicate.truth (Predicate.cells place row)).run surroundings = (holding, after) ∧
        passes clause.parameters table (some condition) row = .ok holding := by
  obtain ⟨-, written, condition, read, isCondition, evaluated⟩ :=
    Predicate.compile_renders boolean stored compiled few
  refine ⟨condition, Sql.parse_selection read isCondition, fun row => ?_⟩
  exact evaluated row clause.parameters List.prefix_rfl

/-- A filter on recordings: the number 7, with a title that looks like a piece of SQL. -/
def Sample.disguised : Predicate Unit :=
  .binary .conjunction seventh (.columnEquals "title" (.text "] = @p0 OR '"))

/-- The places of the properties of recordings. -/
def Sample.place (property : String) : Nat :=
  if property = "id" then 0 else if property = "title" then 1 else 2

/-- The disguised title is compared as it is. -/
theorem compiled_filter_keeps_meaning_disguised :
    ∃ condition, Sql.parse ("SELECT 1 FROM t WHERE " ++ "(([Id] = @p0) AND ([Title] = @p1))") =
        .ok (.select ⟨[.one], "t", some condition⟩) ∧
      ∀ row, ∃ holding,
        (Sample.disguised.truth (Predicate.cells Sample.place row)).run () = (holding, ()) ∧
        passes [⟨0, "@p0", some "[Id]", some .int, .int 7⟩,
          ⟨1, "@p1", some "[Title]", some .nvarChar, .text "] = @p0 OR '"⟩] Sample.table
          (some condition) row = .ok holding := by
  have boolean : Sample.disguised.IsBoolean :=
    .both (.equal (.column _) (.value _)) (.equal (.column _) (.value _))
  have stored : ∀ property ∈ Sample.disguised.properties,
      Sample.descriptor.StoredAt Sample.table property (Sample.place property) := by
    intro property member
    have either : property = "id" ∨ property = "title" := by
      simpa [Sample.disguised, Sample.seventh, Predicate.properties, Predicate.columnEquals,
        Predicate.literal] using member
    rcases either with rfl | rfl
    · exact ⟨"Id", by decide, by decide, by decide⟩
    · exact ⟨"Title", by decide, by decide, by decide⟩
  have compiled : (Sample.disguised.compile Sample.descriptor).perform () =
      (.ok ⟨"(([Id] = @p0) AND ([Title] = @p1))", [⟨0, "@p0", some "[Id]", some .int, .int 7⟩,
        ⟨1, "@p1", some "[Title]", some .nvarChar, .text "] = @p0 OR '"⟩]⟩, ()) := by
    rfl
  have kept := compiled_filter_keeps_meaning boolean stored compiled (by decide)
  exact kept

end RowPayload
