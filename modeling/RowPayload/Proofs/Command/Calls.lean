import Mathlib
import RowPayload.Proofs.Command.Splicing

/-!
# What calls on a builder leave behind

Binding a value and splicing a clause append to one sequence of parameters by different code, but
both number what they append from the length of the sequence. So however calls are mixed, every
parameter has its place for an ordinal, and nothing that is bound is touched again. A placeholder
that stands in the text was the next one when it was written, and names the value it was written
for after any later calls.
-/

namespace RowPayload

/-- Parameters that are numbered by their places, and named after them. -/
def Parameter.Numbered (parameters : List Parameter) : Prop :=
  ∀ place parameter, parameters[place]? = some parameter →
    parameter.ordinal = place ∧ parameter.name = placeholder place

/-- Placeholders of different ordinals are different. -/
theorem placeholder_injective : Function.Injective placeholder := by
  intro first second same
  have digits : (toString first).toList = (toString second).toList := by
    simpa [Sql.toList_placeholder] using congrArg String.toList same
  have spelled := Sql.natural?_toString first
  rw [digits, Sql.natural?_toString] at spelled
  exact (Option.some.inj spelled).symm

namespace Parameter.Numbered

/-- There is nothing to number. -/
theorem nil : Numbered [] := nofun

/-- Parameters stay numbered if those that follow go on from their count. -/
theorem append {first second : List Parameter} (numbered : Numbered first)
    (goesOn : ∀ place parameter, second[place]? = some parameter →
      parameter.ordinal = place + first.length ∧
        parameter.name = placeholder (place + first.length)) :
    Numbered (first ++ second) := by
  intro place parameter found
  by_cases inside : place < first.length
  · rw [List.getElem?_append_left inside] at found
    exact numbered place parameter found
  · rw [List.getElem?_append_right (by omega)] at found
    have next := goesOn _ parameter found
    rwa [Nat.sub_add_cancel (by omega)] at next

/-- Numbered parameters have different names. -/
theorem nodup {parameters : List Parameter} (numbered : Numbered parameters) :
    (parameters.map Parameter.name).Nodup := by
  rw [List.Nodup, List.pairwise_map, List.pairwise_iff_getElem]
  intro first second insideFirst insideSecond before same
  rw [(numbered first _ (List.getElem?_eq_getElem insideFirst)).2,
    (numbered second _ (List.getElem?_eq_getElem insideSecond)).2] at same
  have equal := placeholder_injective same
  omega

/-- The parameter at a place is the one that the placeholder of the place names. -/
theorem find {parameters : List Parameter} (numbered : Numbered parameters) {place : Nat}
    {parameter : Parameter} (found : parameters[place]? = some parameter) (sql : String) :
    Command.parameter? ⟨sql, parameters⟩ (placeholder place) = some parameter := by
  obtain ⟨inside, rfl⟩ := List.getElem?_eq_some_iff.1 found
  rw [Command.parameter?, List.find?_eq_some_iff_getElem]
  refine ⟨beq_iff_eq.2 (numbered place _ found).2, place, inside, rfl, fun earlier before => ?_⟩
  have named := (numbered earlier _ (List.getElem?_eq_getElem (by omega))).2
  have other : placeholder earlier ≠ placeholder place := by
    intro same
    have equal := placeholder_injective same
    omega
  simp [named, other]

end Parameter.Numbered

namespace CommandBuilder

open Parameter (Numbered)
open Sql (Token tokenize)

/-! ## Calls -/

/-- A call on a builder. -/
inductive Call where
  | sql (text : String)
  | bind (value : Value)
  | bindColumn (column : String) (value : Value)
  | splice (clause : Clause)

/-- The builder after a call. -/
def perform (builder : CommandBuilder) : Call → CommandBuilder
  | .sql text => builder.sql text
  | .bind value => builder.bind none value
  | .bindColumn column value => builder.bind (some column) value
  | .splice clause => builder.splice clause

/-- The builder after calls in order. -/
def performAll (builder : CommandBuilder) (calls : List Call) : CommandBuilder :=
  calls.foldl perform builder

/-- A new builder, seeded with a clause if there is one. -/
def start : Option Clause → CommandBuilder
  | none => empty
  | some clause => seeded clause

/-- The value that a call binds, and the column it is bound against. -/
def Call.binding? : Call → Option (Option String × Value)
  | .bind value => some (none, value)
  | .bindColumn column value => some (some column, value)
  | _ => none

/-- The clause of a call is numbered, if it has one. -/
def Call.Sound : Call → Prop
  | .splice clause => Numbered clause.parameters
  | _ => True

/-- A call that binds a value is a binding. -/
theorem perform_of_binding {call : Call} {column : Option String} {value : Value}
    (binding : call.binding? = some (column, value)) (builder : CommandBuilder) :
    builder.perform call = builder.bind column value := by
  cases call <;> cases binding <;> rfl

/-! ## One call -/

/-- A call appends to the parameters and to the text. -/
theorem perform_appends (builder : CommandBuilder) (call : Call) :
    builder.parameters <+: (builder.perform call).parameters ∧
      ∃ more, (builder.perform call).build.sql = builder.build.sql ++ more := by
  cases call with
  | sql text => exact ⟨List.prefix_rfl, text, Lifecycle.build_sql builder text⟩
  | bind value => exact ⟨List.prefix_append .., _, Lifecycle.build_bind builder none value⟩
  | bindColumn column value =>
    exact ⟨List.prefix_append .., _, Lifecycle.build_bind builder (some column) value⟩
  | splice clause => exact ⟨List.prefix_append .., _, build_splice builder clause⟩

/-- Binding a value keeps parameters numbered. -/
theorem numbered_bind {builder : CommandBuilder} (numbered : Numbered builder.parameters)
    (column : Option String) (value : Value) :
    Numbered (builder.bind column value).parameters := by
  refine numbered.append fun place parameter found => ?_
  obtain ⟨inside, rfl⟩ := List.getElem?_eq_some_iff.1 found
  obtain rfl : place = 0 := by simpa using inside
  rw [Nat.zero_add]
  exact ⟨rfl, rfl⟩

/-- Splicing a numbered clause keeps parameters numbered. -/
theorem numbered_splice {builder : CommandBuilder} (numbered : Numbered builder.parameters)
    {clause : Clause} (clauseNumbered : Numbered clause.parameters) :
    Numbered (builder.splice clause).parameters := by
  refine numbered.append fun place parameter found => ?_
  rw [List.getElem?_map, Option.map_eq_some_iff] at found
  obtain ⟨own, foundOwn, rfl⟩ := found
  obtain ⟨rfl, -⟩ := clauseNumbered place own foundOwn
  exact ⟨rfl, rfl⟩

/-- A call keeps parameters numbered. -/
theorem numbered_perform {builder : CommandBuilder} (numbered : Numbered builder.parameters)
    {call : Call} (sound : call.Sound) : Numbered (builder.perform call).parameters := by
  cases call with
  | sql text => exact numbered
  | bind value => exact numbered_bind numbered none value
  | bindColumn column value => exact numbered_bind numbered (some column) value
  | splice clause => exact numbered_splice numbered sound

/-! ## All calls -/

/-- Calls are performed one after another. -/
theorem performAll_append (builder : CommandBuilder) (earlier later : List Call) :
    builder.performAll (earlier ++ later) = (builder.performAll earlier).performAll later :=
  List.foldl_append

/-- A call that binds a value does so after the calls before it. -/
theorem performAll_binding {call : Call} {column : Option String} {value : Value}
    (binding : call.binding? = some (column, value)) (builder : CommandBuilder)
    (earlier later : List Call) :
    builder.performAll (earlier ++ call :: later) =
      ((builder.performAll earlier).bind column value).performAll later := by
  rw [performAll_append, ← perform_of_binding binding]
  rfl

/-- Calls append to the parameters and to the text. -/
theorem performAll_appends (builder : CommandBuilder) (calls : List Call) :
    builder.parameters <+: (builder.performAll calls).parameters ∧
      ∃ more, (builder.performAll calls).build.sql = builder.build.sql ++ more := by
  induction calls generalizing builder with
  | nil => exact ⟨List.prefix_rfl, "", (String.append_empty ..).symm⟩
  | cons call rest inductionHypothesis =>
    obtain ⟨first, text, written⟩ := perform_appends builder call
    obtain ⟨others, more, whole⟩ := inductionHypothesis (builder.perform call)
    refine ⟨first.trans others, text ++ more, ?_⟩
    rw [← String.append_assoc, ← written]
    exact whole

/-- Calls keep parameters numbered. -/
theorem numbered_performAll {builder : CommandBuilder} (numbered : Numbered builder.parameters)
    {calls : List Call} (sound : ∀ call ∈ calls, call.Sound) :
    Numbered (builder.performAll calls).parameters := by
  induction calls generalizing builder with
  | nil => exact numbered
  | cons call rest inductionHypothesis =>
    rw [List.forall_mem_cons] at sound
    exact inductionHypothesis (numbered_perform numbered sound.1) sound.2

/-- The parameter that binds a value under an ordinal. -/
def boundParameter (ordinal : Nat) (column : Option String) (value : Value) : Parameter :=
  ⟨ordinal, placeholder ordinal, column, bindingType value, value⟩

/-- What is bound by a call stays at its place through any later calls. -/
theorem getElem?_bind_performAll (builder : CommandBuilder) (column : Option String)
    (value : Value) (later : List Call) :
    ((builder.bind column value).performAll later).parameters[builder.parameters.length]? =
      some (boundParameter builder.parameters.length column value) := by
  have here : (builder.bind column value).parameters[builder.parameters.length]? =
      some (boundParameter builder.parameters.length column value) := by
    rw [bind, List.getElem?_append_right (Nat.le_refl _), Nat.sub_self]
    rfl
  obtain ⟨inside, -⟩ := List.getElem?_eq_some_iff.1 here
  obtain ⟨others, whole⟩ := (performAll_appends (builder.bind column value) later).1
  rw [← whole, List.getElem?_append_left inside, here]

/-- **Calls number their placeholders from one sequence.** From a new or a seeded builder, after
any calls whose clauses are numbered by their places, the parameters are numbered by their places
and differently named, and each of them is left as it was by all later calls. What a call that
binds a value writes is a placeholder. After any later calls it is found in the text behind what
was written before the call, and names the parameter with just the value and the column of the
call. If it is not run into by a digit after it, the lexer reads it as the ordinal under which the
engine finds the value. -/
theorem calls_number_placeholders {seed : Option Clause} {calls : List Call}
    (seedNumbered : ∀ clause ∈ seed, Numbered clause.parameters)
    (callsNumbered : ∀ clause, .splice clause ∈ calls → Numbered clause.parameters) :
    (∀ earlier later, calls = earlier ++ later →
      Numbered ((start seed).performAll earlier).parameters ∧
      (((start seed).performAll earlier).parameters.map Parameter.name).Nodup ∧
      ((start seed).performAll earlier).parameters <+:
        ((start seed).performAll calls).parameters) ∧
    ∀ earlier call later column value, calls = earlier ++ call :: later →
      call.binding? = some (column, value) →
      ∃ ordinal rest,
        ((start seed).performAll (earlier ++ [call])).build.sql =
          ((start seed).performAll earlier).build.sql ++ placeholder ordinal ∧
        ((start seed).performAll calls).build.sql =
          ((start seed).performAll earlier).build.sql ++ placeholder ordinal ++ rest ∧
        ((start seed).performAll calls).build.parameter? (placeholder ordinal) =
          some ⟨ordinal, placeholder ordinal, column, bindingType value, value⟩ ∧
        Engine.parameterValue ((start seed).performAll calls).build.parameters ordinal =
          .ok value ∧
        ∀ first, tokenize ((start seed).performAll earlier).build.sql = .ok first →
          ordinal < Placeholder.ordinalBound → (∀ c ∈ rest.toList.head?, c.isDigit = false) →
          tokenize ((start seed).performAll calls).build.sql =
            (tokenize rest).map fun second => first ++ .parameter ordinal :: second := by
  have sound : ∀ call ∈ calls, call.Sound := by
    intro call member
    cases call with
    | splice clause => exact callsNumbered clause member
    | _ => trivial
  have started : Numbered (start seed).parameters := by
    cases seed with
    | none => exact .nil
    | some clause => exact seedNumbered clause rfl
  constructor
  · rintro earlier later rfl
    have numbered := numbered_performAll started fun call member =>
      sound call (List.mem_append_left _ member)
    refine ⟨numbered, numbered.nodup, ?_⟩
    rw [performAll_append]
    exact (performAll_appends _ later).1
  · rintro earlier call later column value rfl binding
    have numbered := numbered_performAll started fun call member =>
      sound call (List.mem_append_left _ member)
    have soundLater : ∀ call ∈ later, call.Sound := fun call member =>
      sound call (List.mem_append_right _ (List.mem_cons_of_mem _ member))
    rw [performAll_binding binding _ earlier later, performAll_binding binding _ earlier []]
    generalize (start seed).performAll earlier = builder at numbered ⊢
    have found := getElem?_bind_performAll builder column value later
    have named := (numbered_performAll (numbered_bind numbered column value) soundLater).find found
    obtain ⟨rest, text⟩ := (performAll_appends (builder.bind column value) later).2
    rw [Lifecycle.build_bind] at text
    refine ⟨builder.parameters.length, rest, Lifecycle.build_bind .., text, named _, ?_, ?_⟩
    · apply Engine.parameterValue_of_boundValues
      rw [boundValues, List.getElem?_map]
      exact congrArg (Option.map Parameter.value) found
    · intro first read small noDigit
      rw [text]
      exact Sql.tokenize_placeholder_between read small noDigit

end CommandBuilder

/-- The calls that write an update of the title of a recording. -/
def Sample.update : List CommandBuilder.Call :=
  [.sql "UPDATE Recordings SET [Title] = ", .bindColumn "[Title]" (.text "Dusk"), .sql " WHERE ",
    .splice clause]

/-- A title that is bound after the value of a seed keeps its placeholder when the seed is spliced
behind it once more. -/
theorem CommandBuilder.calls_number_placeholders_update :
    ∃ ordinal rest,
      ((start (some Sample.clause)).performAll Sample.update).build.sql =
        "UPDATE Recordings SET [Title] = " ++ placeholder ordinal ++ rest ∧
      ((start (some Sample.clause)).performAll Sample.update).build.parameter?
          (placeholder ordinal) =
        some ⟨ordinal, placeholder ordinal, some "[Title]", some .nvarChar, .text "Dusk"⟩ := by
  have numbered : Parameter.Numbered Sample.clause.parameters := by
    intro place parameter found
    cases place with
    | zero =>
      cases found
      exact ⟨rfl, rfl⟩
    | succ place => cases found
  have seedNumbered : ∀ clause ∈ some Sample.clause, Parameter.Numbered clause.parameters := by
    rintro _ ⟨⟩
    exact numbered
  have callsNumbered : ∀ clause, .splice clause ∈ Sample.update →
      Parameter.Numbered clause.parameters := by
    intro clause member
    obtain rfl : clause = Sample.clause := by simpa [Sample.update] using member
    exact numbered
  obtain ⟨-, bindings⟩ := calls_number_placeholders seedNumbered callsNumbered
  obtain ⟨ordinal, rest, -, text, named, -⟩ := bindings [.sql "UPDATE Recordings SET [Title] = "]
    (.bindColumn "[Title]" (.text "Dusk")) [.sql " WHERE ", .splice Sample.clause] (some "[Title]")
    (.text "Dusk") rfl rfl
  exact ⟨ordinal, rest, text, named⟩

end RowPayload
