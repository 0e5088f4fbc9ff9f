import RowPayload.Proofs.Predicate.Meaning

/-!
# Which filters compile, and how their values are numbered

Compiling looks at the leaves of a filter from left to right and at an operator after both of
its operands. A filter compiles if nothing that is looked at is at fault; then its values are
numbered in the order of their leaves. Otherwise the first that is at fault is reported, and
nothing after it is looked at. Either way every source that was reached was evaluated once, in
this order, so that sources which share a counter draw consecutive numbers.
-/

namespace RowPayload

/-- Evaluate sources one after another, each once. -/
def ValueSource.evaluateAll {ε : Type} : List (ValueSource ε) → ε → List Value × ε
  | [], surroundings => ([], surroundings)
  | source :: rest, surroundings =>
    let (value, middle) := source.evaluate surroundings
    let (values, last) := evaluateAll rest middle
    (value :: values, last)

/-- Null and binary data are what has no type to be bound as. -/
theorem SqlType.of?_eq_none {value : Value} :
    SqlType.of? value = none ↔ value = .null ∨ ∃ data, value = .bytes data := by
  cases value <;> simp [SqlType.of?]

namespace Predicate

open ValueSource (evaluateAll)

variable {ε : Type}

/-! ## What compiling looks at -/

/-- Something that compiling looks at. -/
inductive Sight (ε : Type) where
  | property (name : String)
  | value (source : ValueSource ε)
  | operator (op : BinaryOperator)
  | negation

/-- The source that is evaluated at a sight, if there is one. -/
def Sight.source? : Sight ε → Option (ValueSource ε)
  | .value source => some source
  | _ => none

/-- The sources among what compiling looks at. -/
def sources (sights : List (Sight ε)) : List (ValueSource ε) := sights.filterMap Sight.source?

/-- What compiling a filter looks at, in order: the leaves from left to right, and an operator
after both of its operands. What is negated is not looked at. -/
def sights : Predicate ε → List (Sight ε)
  | .column property => [.property property]
  | .value source => [.value source]
  | .binary op left right => left.sights ++ right.sights ++ [.operator op]
  | .negation _ => [.negation]

/-- Why something that compiling looks at is at fault, and with what it fails. -/
inductive Sight.Offends (descriptor : Descriptor) (surroundings : ε) : Sight ε → Error → Prop where
  | unmapped {name : String} (unmapped : descriptor.columns.get? name = none) :
      Offends descriptor surroundings (.property name) (.unmappedProperty name descriptor.table)
  | null {source : ValueSource ε} (isNull : (source.evaluate surroundings).1 = .null) :
      Offends descriptor surroundings (.value source) (.unsupportedType Value.null.typeName)
  | bytes {source : ValueSource ε} {data : Bytes}
      (isBytes : (source.evaluate surroundings).1 = .bytes data) :
      Offends descriptor surroundings (.value source) (.unsupportedType (Value.bytes data).typeName)
  | operator {op : BinaryOperator} (equal : op ≠ .equal) (conjunction : op ≠ .conjunction)
      (disjunction : op ≠ .disjunction) :
      Offends descriptor surroundings (.operator op) (.unsupportedExpression (.operator op))
  | negation : Offends descriptor surroundings .negation (.unsupportedExpression .negation)

/-- Nothing that compiling looks at is at fault. -/
structure Acceptable (descriptor : Descriptor) (sights : List (Sight ε)) (surroundings : ε) :
    Prop where
  negations : .negation ∉ sights
  operators : ∀ op, .operator op ∈ sights → op = .equal ∨ op = .conjunction ∨ op = .disjunction
  properties : ∀ property, .property property ∈ sights →
    ∃ column, descriptor.columns.get? property = some column
  values : ∀ value ∈ (evaluateAll (sources sights) surroundings).1,
    value ≠ .null ∧ ∀ data, value ≠ .bytes data

/-! ## Looking at one thing after another -/

/-- Evaluating two lists of sources, one after the other. -/
theorem evaluateAll_append (first second : List (ValueSource ε)) (surroundings : ε) :
    evaluateAll (first ++ second) surroundings =
      ((evaluateAll first surroundings).1 ++
        (evaluateAll second (evaluateAll first surroundings).2).1,
      (evaluateAll second (evaluateAll first surroundings).2).2) := by
  induction first generalizing surroundings with
  | nil => rfl
  | cons source rest inductionHypothesis =>
    simp only [List.cons_append, evaluateAll, inductionHypothesis]

/-- Every source has one value. -/
theorem length_evaluateAll (sources : List (ValueSource ε)) (surroundings : ε) :
    (evaluateAll sources surroundings).1.length = sources.length := by
  induction sources generalizing surroundings with
  | nil => rfl
  | cons source rest inductionHypothesis =>
    rw [evaluateAll, List.length_cons, List.length_cons, inductionHypothesis]

/-- The sources of what is looked at first come before those of what is looked at then. -/
@[simp] theorem sources_append (first second : List (Sight ε)) :
    sources (first ++ second) = sources first ++ sources second :=
  List.filterMap_append

/-- What is looked at is acceptable if its parts are, each from where it begins. -/
theorem acceptable_append {descriptor : Descriptor} {first second : List (Sight ε)}
    {surroundings : ε} : Acceptable descriptor (first ++ second) surroundings ↔
      Acceptable descriptor first surroundings ∧
        Acceptable descriptor second (evaluateAll (sources first) surroundings).2 := by
  constructor
  · intro accepted
    obtain ⟨negations, operators, properties, values⟩ := accepted
    rw [sources_append, evaluateAll_append] at values
    simp only [List.mem_append] at negations operators properties values
    exact ⟨⟨fun member => negations (.inl member), fun op member => operators op (.inl member),
        fun property member => properties property (.inl member),
        fun value member => values value (.inl member)⟩,
      ⟨fun member => negations (.inr member), fun op member => operators op (.inr member),
        fun property member => properties property (.inr member),
        fun value member => values value (.inr member)⟩⟩
  · rintro ⟨earlier, later⟩
    constructor
    case negations =>
      intro member
      exact (List.mem_append.1 member).elim earlier.negations later.negations
    case operators =>
      intro op member
      exact (List.mem_append.1 member).elim (earlier.operators op) (later.operators op)
    case properties =>
      intro property member
      exact (List.mem_append.1 member).elim (earlier.properties property)
        (later.properties property)
    case values =>
      intro value member
      rw [sources_append, evaluateAll_append] at member
      exact (List.mem_append.1 member).elim (earlier.values value) (later.values value)

/-- Looking at nothing is acceptable. -/
theorem acceptable_nil (descriptor : Descriptor) (surroundings : ε) :
    Acceptable descriptor [] surroundings :=
  ⟨by simp, by simp, by simp, by simp [sources, evaluateAll]⟩

/-- A property that is mapped is acceptable. -/
theorem acceptable_property {descriptor : Descriptor} {name column : String}
    (mapped : descriptor.columns.get? name = some column) (surroundings : ε) :
    Acceptable descriptor [.property name] surroundings where
  negations := by simp
  operators := by simp
  properties := by
    intro property member
    cases List.mem_singleton.1 member
    exact ⟨column, mapped⟩
  values := by
    have nothing : sources [(.property name : Sight ε)] = [] := rfl
    simp [nothing, evaluateAll]

/-- A source whose value has a type is acceptable. -/
theorem acceptable_value {source : ValueSource ε} {surroundings : ε} {type : SqlType}
    (typed : SqlType.of? (source.evaluate surroundings).1 = some type) (descriptor : Descriptor) :
    Acceptable descriptor [.value source] surroundings where
  negations := by simp
  operators := by simp
  properties := by simp
  values := by
    intro value member
    obtain rfl : value = (source.evaluate surroundings).1 := List.mem_singleton.1 member
    have known : ¬ SqlType.of? (source.evaluate surroundings).1 = none := by simp [typed]
    rw [SqlType.of?_eq_none] at known
    exact ⟨fun isNull => known (.inl isNull), fun data isBytes => known (.inr ⟨data, isBytes⟩)⟩

/-- An operator that has a form is acceptable. -/
theorem acceptable_operator {op : BinaryOperator}
    (either : op = .equal ∨ op = .conjunction ∨ op = .disjunction) (descriptor : Descriptor)
    (surroundings : ε) : Acceptable descriptor [.operator op] surroundings where
  negations := by simp
  operators := by
    intro other member
    cases List.mem_singleton.1 member
    exact either
  properties := by simp
  values := by
    have nothing : sources [(.operator op : Sight ε)] = [] := rfl
    simp [nothing, evaluateAll]

/-- Who is at fault is not acceptable. -/
theorem Sight.Offends.not_acceptable {descriptor : Descriptor} {surroundings : ε}
    {sight : Sight ε} {fault : Error} (offends : sight.Offends descriptor surroundings fault) :
    ¬ Acceptable descriptor [sight] surroundings := by
  intro accepted
  cases offends with
  | unmapped unmapped =>
    obtain ⟨column, mapped⟩ := accepted.properties _ (List.mem_singleton.2 rfl)
    rw [unmapped] at mapped
    cases mapped
  | null isNull =>
    have met := accepted.values _ (List.mem_cons_self ..)
    exact met.1 isNull
  | bytes isBytes =>
    have met := accepted.values _ (List.mem_cons_self ..)
    exact met.2 _ isBytes
  | operator equal conjunction disjunction =>
    rcases accepted.operators _ (List.mem_singleton.2 rfl) with is | is | is
    · exact equal is
    · exact conjunction is
    · exact disjunction is
  | negation => exact accepted.negations (List.mem_singleton.2 rfl)

/-- Look at something: whether it is at fault, and the surroundings afterwards. -/
def Sight.look (descriptor : Descriptor) : Sight ε → Ambient ε Unit
  | .property name => do
    let _ ← descriptor.column name
  | .value source => do
    let _ ← SqlType.infer (← source.produce)
  | .operator op => if hasForm op then return else throw (.unsupportedExpression (.operator op))
  | .negation => throw (.unsupportedExpression .negation)

/-- Look at one thing after another, up to the first that is at fault. -/
def scan (descriptor : Descriptor) : List (Sight ε) → Ambient ε Unit
  | [] => return
  | sight :: rest => do
    sight.look descriptor
    scan descriptor rest

/-- What is looked at is acceptable, or it is at fault. Its source, if it has one, has been
evaluated. -/
theorem Sight.look_cases (descriptor : Descriptor) (sight : Sight ε) (surroundings : ε) :
    ((sight.look descriptor).perform surroundings =
        (.ok (), (evaluateAll (sources [sight]) surroundings).2) ∧
      Acceptable descriptor [sight] surroundings) ∨
    ∃ fault, (sight.look descriptor).perform surroundings =
        (.error fault, (evaluateAll (sources [sight]) surroundings).2) ∧
      sight.Offends descriptor surroundings fault := by
  cases sight with
  | property name =>
    cases mapped : descriptor.columns.get? name with
    | none =>
      refine .inr ⟨_, ?_, .unmapped mapped⟩
      simp only [look, Descriptor.column, mapped, Work.perform_bind, Work.perform_lift]
      rfl
    | some column =>
      refine .inl ⟨?_, acceptable_property mapped surroundings⟩
      simp only [look, Descriptor.column, mapped, Work.perform_bind, Work.perform_lift]
      rfl
  | value source =>
    cases typed : SqlType.of? (source.evaluate surroundings).1 with
    | none =>
      have looked : ((Sight.value source).look descriptor).perform surroundings =
          (.error (.unsupportedType (source.evaluate surroundings).1.typeName),
            (evaluateAll (sources [Sight.value source]) surroundings).2) := by
        simp only [look, Work.perform_bind, ValueSource.perform_produce, SqlType.infer, typed]
        rfl
      rcases SqlType.of?_eq_none.1 typed with isNull | ⟨data, isBytes⟩
      · rw [isNull] at looked
        exact .inr ⟨_, looked, .null isNull⟩
      · rw [isBytes] at looked
        exact .inr ⟨_, looked, .bytes isBytes⟩
    | some type =>
      refine .inl ⟨?_, acceptable_value typed descriptor⟩
      simp only [look, Work.perform_bind, ValueSource.perform_produce, SqlType.infer, typed]
      rfl
  | operator op =>
    cases op with
    | equal | conjunction | disjunction =>
      exact .inl ⟨rfl, acceptable_operator (by simp) descriptor surroundings⟩
    | notEqual | less | lessOrEqual | greater | greaterOrEqual =>
      exact .inr ⟨_, rfl, .operator (by simp) (by simp) (by simp)⟩
  | negation => exact .inr ⟨_, rfl, .negation⟩

/-- One thing after another is looked at: up to the end if nothing is at fault, and otherwise up to
the first that is. -/
theorem scan_cases (descriptor : Descriptor) (sights : List (Sight ε)) (surroundings : ε) :
    ((scan descriptor sights).perform surroundings =
        (.ok (), (evaluateAll (sources sights) surroundings).2) ∧
      Acceptable descriptor sights surroundings) ∨
    ∃ passed offender rest fault, sights = passed ++ offender :: rest ∧
      Acceptable descriptor passed surroundings ∧
      offender.Offends descriptor (evaluateAll (sources passed) surroundings).2 fault ∧
      (scan descriptor sights).perform surroundings =
        (.error fault, (evaluateAll (sources (passed ++ [offender])) surroundings).2) := by
  induction sights generalizing surroundings with
  | nil => exact .inl ⟨rfl, acceptable_nil descriptor surroundings⟩
  | cons sight rest inductionHypothesis =>
    have evaluated (others : List (Sight ε)) :
        (evaluateAll (sources (sight :: others)) surroundings).2 =
          (evaluateAll (sources others) (evaluateAll (sources [sight]) surroundings).2).2 := by
      rw [← List.singleton_append, sources_append, evaluateAll_append]
    rcases sight.look_cases descriptor surroundings with
      ⟨looked, accepted⟩ | ⟨fault, looked, offends⟩
    · have goesOn : (scan descriptor (sight :: rest)).perform surroundings =
          (scan descriptor rest).perform (evaluateAll (sources [sight]) surroundings).2 := by
        rw [scan, Work.perform_bind, looked]
      rcases inductionHypothesis (evaluateAll (sources [sight]) surroundings).2 with
        ⟨scanned, others⟩ | ⟨passed, offender, later, fault, rfl, others, offends, scanned⟩
      · refine .inl ⟨?_, acceptable_append.2 ⟨accepted, others⟩⟩
        rw [goesOn, scanned, ← evaluated]
      · refine .inr ⟨sight :: passed, offender, later, fault, rfl,
          acceptable_append.2 ⟨accepted, others⟩, ?_, ?_⟩
        · rw [evaluated]
          exact offends
        · rw [goesOn, scanned, ← evaluated]
          rfl
    · refine .inr ⟨[], sight, rest, fault, rfl, acceptable_nil descriptor surroundings, offends, ?_⟩
      rw [scan, Work.perform_bind, looked]
      rfl

/-- Looking at two lists, one after the other. -/
theorem scan_append (descriptor : Descriptor) (first second : List (Sight ε)) :
    scan descriptor (first ++ second) = (do
      scan descriptor first
      scan descriptor second) := by
  induction first with
  | nil => rfl
  | cons sight rest inductionHypothesis =>
    simp only [List.cons_append, scan, inductionHypothesis, bind_assoc]

/-- **Compiling looks at the sights of a filter**, one after another. -/
theorem visit_scans (descriptor : Descriptor) (predicate : Predicate ε) (bound : List Parameter) :
    (do let _ ← visit descriptor predicate bound) = scan descriptor predicate.sights := by
  induction predicate generalizing bound with
  | column property =>
    simp only [visit, sights, scan, Sight.look, bind_assoc, pure_bind]
  | value source =>
    simp only [visit, sights, scan, Sight.look, bind_assoc, pure_bind]
  | binary op left right leftHypothesis rightHypothesis =>
    simp only [visit, sights, scan_append, ← leftHypothesis bound, bind_assoc, pure_bind]
    congr 1
    funext answer
    simp only [← rightHypothesis answer.2, bind_assoc, pure_bind]
    congr 1
    funext answer
    simp only [scan, Sight.look]
    cases hasForm op
    · rfl
    · rfl
  | negation inner _ => rfl

/-! ## Numbering -/

/-- The value and the property that an operator compares, if it is an equality of the two. -/
def comparison? : BinaryOperator → Predicate ε → Predicate ε → Option (ValueSource ε × String)
  | .equal, .column property, .value source => some (source, property)
  | .equal, .value source, .column property => some (source, property)
  | _, _, _ => none

/-- The values of a filter in order, each with the property that it is compared with, if it is one
operand of an equality and a property the other. -/
def bindings : Predicate ε → List (ValueSource ε × Option String)
  | .column _ => []
  | .value source => [(source, none)]
  | .binary op left right =>
    match comparison? op left right with
    | some (source, property) => [(source, some property)]
    | none => left.bindings ++ right.bindings
  | .negation _ => []

/-- The parameter with an ordinal that binds a value, compared with a property or with none. -/
def parameterOf (descriptor : Descriptor) (ordinal : Nat) (compared : Option String)
    (value : Value) : Parameter where
  ordinal := ordinal
  name := "@p" ++ toString ordinal
  column := compared.bind descriptor.columns.get?
  type := SqlType.of? value
  value := value

/-- The parameters that bind the values of sources, with ordinals that go on from a number. -/
def numbered (descriptor : Descriptor) (next : Nat)
    (bindings : List (ValueSource ε × Option String)) (surroundings : ε) : List Parameter :=
  (bindings.zip (evaluateAll (bindings.map Prod.fst) surroundings).1).mapIdx
    fun place ((_, compared), produced) => parameterOf descriptor (next + place) compared produced

/-- What is compared is the property and the value that are the operands. -/
theorem comparison?_eq_some {op : BinaryOperator} {left right : Predicate ε}
    {source : ValueSource ε} {property : String}
    (compared : comparison? op left right = some (source, property)) :
    op = .equal ∧ ((left = .column property ∧ right = .value source) ∨
      (left = .value source ∧ right = .column property)) := by
  unfold comparison? at compared
  split at compared <;> cases compared
  · exact ⟨rfl, .inl ⟨rfl, rfl⟩⟩
  · exact ⟨rfl, .inr ⟨rfl, rfl⟩⟩

/-- The values of an operator are those of its operands, whether it compares them or not. -/
theorem map_fst_binary (op : BinaryOperator) (left right : Predicate ε) :
    (bindings (.binary op left right)).map Prod.fst =
      left.bindings.map Prod.fst ++ right.bindings.map Prod.fst := by
  rw [bindings]
  cases compared : comparison? op left right with
  | none => exact List.map_append
  | some pair => rcases comparison?_eq_some compared with ⟨-, ⟨rfl, rfl⟩ | ⟨rfl, rfl⟩⟩ <;> rfl

/-- The values of a filter are those of its sources. -/
theorem map_fst_bindings (predicate : Predicate ε) :
    predicate.bindings.map Prod.fst = sources predicate.sights := by
  induction predicate with
  | column property => rfl
  | value source => rfl
  | binary op left right leftHypothesis rightHypothesis =>
    rw [map_fst_binary, sights, sources_append, sources_append, leftHypothesis, rightHypothesis]
    exact (List.append_nil _).symm
  | negation inner _ => rfl

/-- Every value has one parameter. -/
theorem length_numbered (descriptor : Descriptor) (next : Nat)
    (bindings : List (ValueSource ε × Option String)) (surroundings : ε) :
    (numbered descriptor next bindings surroundings).length = bindings.length := by
  rw [numbered, List.length_mapIdx, List.length_zip, length_evaluateAll, List.length_map,
    Nat.min_self]

/-- Numbering goes on after the values of a first list with those of a second one. -/
theorem numbered_append (descriptor : Descriptor) (next : Nat)
    (first second : List (ValueSource ε × Option String)) (surroundings : ε) :
    numbered descriptor next (first ++ second) surroundings =
      numbered descriptor next first surroundings ++
        numbered descriptor (next + first.length) second
          (evaluateAll (first.map Prod.fst) surroundings).2 := by
  have sized : first.length = (evaluateAll (first.map Prod.fst) surroundings).1.length := by
    rw [length_evaluateAll, List.length_map]
  have paired : (first.zip (evaluateAll (first.map Prod.fst) surroundings).1).length =
      first.length := by
    rw [List.length_zip, ← sized, Nat.min_self]
  have shifted (place : Nat) : next + (place + first.length) = next + first.length + place := by
    omega
  simp only [numbered, List.map_append, evaluateAll_append, List.zip_append sized,
    List.mapIdx_append, paired, shifted]

section

variable {descriptor : Descriptor} {bound later : List Parameter} {part : Fragment}
variable {surroundings after : ε}

/-- A property that compiles is compiled to its column. -/
theorem visit_column_ok {property : String}
    (visited : (visit descriptor (.column property) bound).perform surroundings =
      (.ok (part, later), after)) :
    ∃ name, descriptor.columns.get? property = some name ∧ part = .column name ∧ later = bound ∧
      after = surroundings := by
  rw [visit] at visited
  obtain ⟨name, middle, found, visited⟩ := Work.perform_bind_ok visited
  rw [Work.perform_lift] at found
  obtain ⟨known, rfl⟩ := Prod.mk.inj found
  cases visited
  exact ⟨name, Descriptor.get?_of_column known, rfl, rfl, rfl⟩

/-- A value that compiles is bound by the next parameter. -/
theorem visit_value_ok {source : ValueSource ε}
    (visited : (visit descriptor (.value source) bound).perform surroundings =
      (.ok (part, later), after)) :
    part = .parameter bound.length ∧
      later = bound ++ [parameterOf descriptor bound.length none (source.evaluate surroundings).1] ∧
      after = (source.evaluate surroundings).2 := by
  rw [visit] at visited
  obtain ⟨produced, middle, evaluated, visited⟩ := Work.perform_bind_ok visited
  obtain ⟨type, _, inferred, visited⟩ := Work.perform_bind_ok visited
  rw [Work.perform_lift] at inferred
  obtain ⟨known, rfl⟩ := Prod.mk.inj inferred
  cases evaluated
  cases visited
  have typed : SqlType.of? (source.evaluate surroundings).1 = some type := by
    unfold SqlType.infer at known
    split at known
    · cases known
      assumption
    · cases known
  refine ⟨rfl, ?_, rfl⟩
  rw [parameterOf, typed]
  rfl

/-- Only a property is compiled to a column. -/
theorem column_of_visit {predicate : Predicate ε} {name : String}
    (visited : (visit descriptor predicate bound).perform surroundings =
      (.ok (.column name, later), after)) : ∃ property, predicate = .column property := by
  cases predicate with
  | column property => exact ⟨property, rfl⟩
  | value source => cases (visit_value_ok visited).1
  | binary op left right =>
    obtain ⟨_, _, _, _, _, -, -, -, joined, -⟩ := visit_binary_ok visited
    cases joined
  | negation inner =>
    rw [visit] at visited
    cases visited

/-- Only a value is compiled to a parameter. -/
theorem value_of_visit {predicate : Predicate ε} {ordinal : Nat}
    (visited : (visit descriptor predicate bound).perform surroundings =
      (.ok (.parameter ordinal, later), after)) : ∃ source, predicate = .value source := by
  cases predicate with
  | column property =>
    obtain ⟨_, -, isColumn, -⟩ := visit_column_ok visited
    cases isColumn
  | value source => exact ⟨source, rfl⟩
  | binary op left right =>
    obtain ⟨_, _, _, _, _, -, -, -, joined, -⟩ := visit_binary_ok visited
    cases joined
  | negation inner =>
    rw [visit] at visited
    cases visited

/-- Where nothing is compared no column is noted. -/
theorem relate_of_visit {op : BinaryOperator} {left right : Predicate ε}
    {leftPart rightPart : Fragment} {middleBound lastBound : List Parameter} {middle : ε}
    (visitLeft : (visit descriptor left bound).perform surroundings =
      (.ok (leftPart, middleBound), middle))
    (visitRight : (visit descriptor right middleBound).perform middle =
      (.ok (rightPart, lastBound), after))
    (apart : comparison? op left right = none) :
    relate op leftPart rightPart lastBound = lastBound := by
  unfold relate
  split
  · obtain ⟨property, rfl⟩ := column_of_visit visitLeft
    obtain ⟨source, rfl⟩ := value_of_visit visitRight
    cases apart
  · obtain ⟨source, rfl⟩ := value_of_visit visitLeft
    obtain ⟨property, rfl⟩ := column_of_visit visitRight
    cases apart
  · rfl

/-- Noting a column on the parameter that was bound last. -/
theorem noteColumn_last (column : String) (bound : List Parameter) (last : Parameter) :
    noteColumn column bound.length (bound ++ [last]) =
      bound ++ [{ last with column := some column }] := by
  induction bound with
  | nil => rfl
  | cons first rest inductionHypothesis =>
    show first :: noteColumn column rest.length (rest ++ [last]) = _
    rw [inductionHypothesis]
    rfl

/-- An equality of a property and a value binds the value by the next parameter, on which the
column of the property is noted. -/
theorem noteColumn_of_comparison {property name : String}
    (mapped : descriptor.columns.get? property = some name) (bound : List Parameter)
    (produced : Value) :
    noteColumn name bound.length (bound ++ [parameterOf descriptor bound.length none produced]) =
      bound ++ [parameterOf descriptor bound.length (some property) produced] := by
  rw [noteColumn_last, parameterOf, parameterOf, Option.bind_some, mapped]

/-- **Compiling numbers the values of a filter from left to right**, after those that are bound
already. -/
theorem visit_numbers {predicate : Predicate ε}
    (visited : (visit descriptor predicate bound).perform surroundings =
      (.ok (part, later), after)) :
    later = bound ++ numbered descriptor bound.length predicate.bindings surroundings ∧
      after = (evaluateAll (predicate.bindings.map Prod.fst) surroundings).2 := by
  induction predicate generalizing bound later part surroundings after with
  | column property =>
    obtain ⟨name, -, -, rfl, rfl⟩ := visit_column_ok visited
    exact ⟨(List.append_nil _).symm, rfl⟩
  | value source =>
    obtain ⟨-, rfl, rfl⟩ := visit_value_ok visited
    exact ⟨rfl, rfl⟩
  | binary op left right leftHypothesis rightHypothesis =>
    obtain ⟨leftPart, rightPart, middleBound, lastBound, middle, visitLeft, visitRight, -, -,
        rfl⟩ :=
      visit_binary_ok visited
    cases compared : comparison? op left right with
    | none =>
      have joined : bindings (.binary op left right) = left.bindings ++ right.bindings := by
        rw [bindings, compared]
      have apart := relate_of_visit visitLeft visitRight compared
      obtain ⟨rfl, rfl⟩ := leftHypothesis visitLeft
      obtain ⟨rfl, rfl⟩ := rightHypothesis visitRight
      rw [apart, joined, List.map_append, evaluateAll_append, numbered_append,
        List.length_append, length_numbered, List.append_assoc]
      exact ⟨rfl, rfl⟩
    | some pair =>
      obtain ⟨rfl, ⟨rfl, rfl⟩ | ⟨rfl, rfl⟩⟩ := comparison?_eq_some compared
      · obtain ⟨name, mapped, rfl, rfl, rfl⟩ := visit_column_ok visitLeft
        obtain ⟨rfl, rfl, rfl⟩ := visit_value_ok visitRight
        exact ⟨noteColumn_of_comparison mapped _ _, rfl⟩
      · obtain ⟨rfl, rfl, rfl⟩ := visit_value_ok visitLeft
        obtain ⟨name, mapped, rfl, rfl, rfl⟩ := visit_column_ok visitRight
        exact ⟨noteColumn_of_comparison mapped _ _, rfl⟩
  | negation inner _ =>
    rw [visit] at visited
    cases visited

end

/-! ## Sources that share a counter -/

/-- Some sources draw from a counter: what they produce is made of the number that the counter
shows, and it goes up by one. The others leave it as it is. -/
structure SharesCounter (counter : ε → Nat) (draws : ValueSource ε → Bool)
    (make : ValueSource ε → Nat → Value) (sources : List (ValueSource ε)) : Prop where
  drawn : ∀ source ∈ sources, draws source = true → ∀ surroundings,
    (source.evaluate surroundings).1 = make source (counter surroundings) ∧
      counter (source.evaluate surroundings).2 = counter surroundings + 1
  apart : ∀ source ∈ sources, draws source = false → ∀ surroundings,
    counter (source.evaluate surroundings).2 = counter surroundings

/-- The values of the sources that draw from a counter, in the order of the sources. -/
def drawnValues (draws : ValueSource ε → Bool) (sources : List (ValueSource ε))
    (surroundings : ε) : List Value :=
  ((sources.zip (evaluateAll sources surroundings).1).filter fun pair => draws pair.1).map Prod.snd

/-- Sources that share a counter draw consecutive numbers. -/
theorem SharesCounter.consecutive {counter : ε → Nat} {draws : ValueSource ε → Bool}
    {make : ValueSource ε → Nat → Value} {sources : List (ValueSource ε)}
    (shares : SharesCounter counter draws make sources) (surroundings : ε) :
    drawnValues draws sources surroundings =
      (sources.filter draws).mapIdx fun place source =>
        make source (counter surroundings + place) := by
  induction sources generalizing surroundings with
  | nil => rfl
  | cons source rest inductionHypothesis =>
    have others : SharesCounter counter draws make rest :=
      ⟨fun other member => shares.drawn other (List.mem_cons_of_mem _ member),
        fun other member => shares.apart other (List.mem_cons_of_mem _ member)⟩
    have later := inductionHypothesis others (source.evaluate surroundings).2
    have shape : drawnValues draws (source :: rest) surroundings =
        (if draws source then [(source.evaluate surroundings).1] else []) ++
          drawnValues draws rest (source.evaluate surroundings).2 := by
      simp only [drawnValues, evaluateAll, List.zip_cons_cons, List.filter_cons]
      cases draws source <;> rfl
    rw [shape, later, List.filter_cons]
    cases chosen : draws source with
    | false =>
      rw [shares.apart source List.mem_cons_self chosen]
      rfl
    | true =>
      obtain ⟨produced, counted⟩ := shares.drawn source List.mem_cons_self chosen surroundings
      have shifted (place : Nat) :
          counter surroundings + 1 + place = counter surroundings + (place + 1) := by
        omega
      simp only [if_true, List.singleton_append, List.mapIdx_cons, produced, counted, Nat.add_zero,
        shifted]

/-- Some of the sources that share a counter share it. -/
theorem SharesCounter.mono {counter : ε → Nat} {draws : ValueSource ε → Bool}
    {make : ValueSource ε → Nat → Value} {few many : List (ValueSource ε)}
    (shares : SharesCounter counter draws make many) (within : few ⊆ many) :
    SharesCounter counter draws make few :=
  ⟨fun source member => shares.drawn source (within member),
    fun source member => shares.apart source (within member)⟩

/-! ## Compiling -/

/-- Compiling looks at the sights of a filter, one after another. -/
theorem compile_scans (descriptor : Descriptor) (predicate : Predicate ε) :
    (do let _ ← compile descriptor predicate) = scan descriptor predicate.sights := by
  simp only [← visit_scans descriptor predicate [], compile, bind_assoc, pure_bind]

/-- A filter that compiles is acceptable. -/
theorem acceptable_of_compile {descriptor : Descriptor} {predicate : Predicate ε}
    {surroundings after : ε} {clause : Clause}
    (compiled : (compile descriptor predicate).perform surroundings = (.ok clause, after)) :
    Acceptable descriptor predicate.sights surroundings := by
  have scanned : (scan descriptor predicate.sights).perform surroundings = (.ok (), after) := by
    rw [← compile_scans, Work.perform_bind, compiled]
    rfl
  rcases scan_cases descriptor predicate.sights surroundings with
    ⟨-, accepted⟩ | ⟨_, _, _, _, -, -, -, failed⟩
  · exact accepted
  · rw [scanned] at failed
    cases failed

/-- A filter that does not compile fails with the fault of the first that is at fault. -/
theorem offender_of_compile {descriptor : Descriptor} {predicate : Predicate ε}
    {surroundings after : ε} {fault : Error}
    (failed : (compile descriptor predicate).perform surroundings = (.error fault, after)) :
    ∃ passed offender rest, predicate.sights = passed ++ offender :: rest ∧
      Acceptable descriptor passed surroundings ∧
      offender.Offends descriptor (evaluateAll (sources passed) surroundings).2 fault ∧
      after = (evaluateAll (sources (passed ++ [offender])) surroundings).2 := by
  have scanned : (scan descriptor predicate.sights).perform surroundings =
      (.error fault, after) := by
    rw [← compile_scans, Work.perform_bind, failed]
  rcases scan_cases descriptor predicate.sights surroundings with
    ⟨done, -⟩ | ⟨passed, offender, rest, other, shape, accepted, offends, stopped⟩
  · rw [scanned] at done
    cases done
  · rw [scanned] at stopped
    cases stopped
    exact ⟨passed, offender, rest, shape, accepted, offends, rfl⟩

/-- **What the compiler accepts, and how it numbers.** A filter compiles exactly if it has no
negation, no operator but equality, conjunction and disjunction, no property that is unmapped
and no value that is null or binary. Its values are then bound in order by one parameter each,
with the ordinal, the name and the type that go with it, and with a column noted exactly if the
value is compared with a property. Otherwise compiling fails with the fault of the first that is
at fault. Every source that is reached is evaluated once and in order, so sources that share a
counter draw consecutive numbers. -/
theorem compile_accepts_and_numbers (descriptor : Descriptor) (predicate : Predicate ε)
    (surroundings : ε) :
    ((∃ clause after, (compile descriptor predicate).perform surroundings = (.ok clause, after)) ↔
      Acceptable descriptor predicate.sights surroundings) ∧
    (∀ clause after, (compile descriptor predicate).perform surroundings = (.ok clause, after) →
      clause.parameters.length = (sources predicate.sights).length ∧
      clause.parameters = numbered descriptor 0 predicate.bindings surroundings ∧
      after = (evaluateAll (sources predicate.sights) surroundings).2) ∧
    (∀ fault after, (compile descriptor predicate).perform surroundings = (.error fault, after) →
      ∃ passed offender rest, predicate.sights = passed ++ offender :: rest ∧
        Acceptable descriptor passed surroundings ∧
        offender.Offends descriptor (evaluateAll (sources passed) surroundings).2 fault ∧
        after = (evaluateAll (sources (passed ++ [offender])) surroundings).2) ∧
    ∀ counter draws make, SharesCounter counter draws make (sources predicate.sights) →
      ∀ reached, reached <+: predicate.sights →
        drawnValues draws (sources reached) surroundings =
          ((sources reached).filter draws).mapIdx fun place source =>
            make source (counter surroundings + place) := by
  refine ⟨⟨?accepts, ?compiles⟩, ?numbers, fun fault after => offender_of_compile, ?counts⟩
  case accepts =>
    rintro ⟨clause, after, compiled⟩
    exact acceptable_of_compile compiled
  case compiles =>
    intro accepted
    cases compiled : (compile descriptor predicate).perform surroundings with
    | mk result after =>
      cases result with
      | ok clause => exact ⟨clause, after, rfl⟩
      | error fault =>
        obtain ⟨passed, offender, rest, shape, -, offends, -⟩ := offender_of_compile compiled
        rw [shape, ← List.singleton_append, acceptable_append, acceptable_append] at accepted
        exact absurd accepted.2.1 offends.not_acceptable
  case numbers =>
    intro clause after compiled
    obtain ⟨⟨part, later⟩, middle, visited, made⟩ := Work.perform_bind_ok compiled
    cases made
    obtain ⟨rfl, rfl⟩ := visit_numbers visited
    refine ⟨?_, rfl, by rw [map_fst_bindings]⟩
    rw [← map_fst_bindings, List.length_map]
    exact length_numbered descriptor 0 predicate.bindings surroundings
  case counts =>
    intro counter draws make shares reached met
    have within : sources reached ⊆ sources predicate.sights := (met.filterMap Sight.source?).subset
    exact (shares.mono within).consecutive surroundings

end Predicate

/-! ## Tickets -/

namespace Sample

/-- A source that draws the next number from a counter. -/
def ticket : ValueSource Nat := .captured fun next => (.int (Int32.ofNat next), next + 1)

/-- The recordings whose number is the next ticket, and whose title is the one after it or the
text "Dawn". -/
def drawing : Predicate Nat :=
  .binary .conjunction (.binary .equal (.column "id") (.value ticket))
    (.binary .disjunction (.binary .equal (.value ticket) (.column "title"))
      (.binary .equal (.value ticket) (.literal (.text "Dawn"))))

/-- A filter with several faults. -/
def faulty : Predicate Nat :=
  .binary .less (.binary .equal (.value ticket) (.column "loud")) (.negation (.value ticket))

end Sample

/-- From the number 5 on three tickets are drawn and bound in order, two of them with columns. Of
several faults the unmapped property is reported, after one ticket was drawn. -/
theorem Predicate.compile_accepts_and_numbers_tickets :
    (∃ clause after, (compile Sample.descriptor Sample.drawing).perform 5 = (.ok clause, after) ∧
      clause.parameters = [⟨0, "@p0", some "[Id]", some .int, .int 5⟩,
        ⟨1, "@p1", some "[Title]", some .int, .int 6⟩, ⟨2, "@p2", none, some .int, .int 7⟩,
        ⟨3, "@p3", none, some .nvarChar, .text "Dawn"⟩] ∧ after = 8) ∧
    (compile Sample.descriptor Sample.faulty).perform 5 =
        (.error (.unmappedProperty "loud" "Recordings"), 6) ∧
      ∃ passed offender rest, Sample.faulty.sights = passed ++ offender :: rest ∧
        Acceptable Sample.descriptor passed 5 := by
  obtain ⟨⟨-, compiles⟩, numbers, -, -⟩ :=
    compile_accepts_and_numbers Sample.descriptor Sample.drawing 5
  obtain ⟨-, -, fails, -⟩ := compile_accepts_and_numbers Sample.descriptor Sample.faulty 5
  have accepted : Acceptable Sample.descriptor Sample.drawing.sights 5 := by
    constructor
    case negations => simp [Sample.drawing, sights, literal]
    case operators => simp [Sample.drawing, sights, literal]
    case properties =>
      intro property member
      have known : property = "id" ∨ property = "title" := by
        simpa [Sample.drawing, sights, literal] using member
      rcases known with rfl | rfl
      · exact ⟨"[Id]", rfl⟩
      · exact ⟨"[Title]", rfl⟩
    case values =>
      show ∀ value ∈ [Value.int 5, .int 6, .int 7, .text "Dawn"], _
      simp
  have failed : (compile Sample.descriptor Sample.faulty).perform 5 =
      (.error (.unmappedProperty "loud" "Recordings"), 6) := rfl
  constructor
  · obtain ⟨clause, after, compiled⟩ := compiles accepted
    obtain ⟨-, bound, reached⟩ := numbers clause after compiled
    exact ⟨clause, after, compiled, bound, reached⟩
  · obtain ⟨passed, offender, rest, shape, acceptable, -⟩ := fails _ _ failed
    exact ⟨failed, passed, offender, rest, shape, acceptable⟩

end RowPayload
