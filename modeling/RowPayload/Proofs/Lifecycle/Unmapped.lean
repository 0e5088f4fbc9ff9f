import RowPayload.Proofs.Lifecycle.Building

/-!
# New rows with unmapped properties

A new row may set a property that has no column. The statement that inserts it cannot be written
then, and the first such property is reported, in the order in which the properties were set.
Otherwise the statement is written, whatever the values are.
-/

namespace RowPayload

variable {ε : Type} {descriptor : Descriptor} {row : NewRow ε} {property : String}

/-- The first property of a new row without a column. -/
def NewRow.unmapped? (row : NewRow ε) (descriptor : Descriptor) : Option String :=
  row.properties.find? fun property => !descriptor.columns.contains property

/-- The payload has a column, so it is never reported. -/
theorem NewRow.ne_payload_of_unmapped (unmapped : row.unmapped? descriptor = some property) :
    property ≠ descriptor.payload := by
  rintro rfl
  have missing := List.find?_some unmapped
  simp [OrderedMap.contains, descriptor.payload_mapped] at missing

namespace Lifecycle

variable {sources : List (String × ValueSource ε)} {surroundings : ε}

/-- Producing a value never fails. -/
theorem perform_produce (source : ValueSource ε) (surroundings : ε) :
    source.produce.perform surroundings =
      (.ok (source.evaluate surroundings).1, (source.evaluate surroundings).2) := rfl

/-- Binding the values of a row fails with the first property that is not mapped. -/
theorem boundColumns_unmapped
    (unmapped : (sources.map Prod.fst).find? (fun property =>
      !descriptor.columns.contains property) = some property) :
    ((boundColumns descriptor sources).perform surroundings).1 =
      .error (.unmappedProperty property descriptor.table) := by
  induction sources generalizing surroundings with
  | nil => cases unmapped
  | cons first rest inductionHypothesis =>
    obtain ⟨name, source⟩ := first
    rw [List.map_cons, List.find?_cons] at unmapped
    rw [boundColumns]
    split
    · rename_i isPayload
      subst isPayload
      simp only [OrderedMap.contains, descriptor.payload_mapped, Option.isSome_some,
        Bool.not_true] at unmapped
      exact inductionHypothesis unmapped
    · cases mapped : descriptor.columns.get? name with
      | none =>
        simp only [OrderedMap.contains, mapped, Option.isSome_none, Bool.not_false] at unmapped
        cases unmapped
        simp [Work.perform_bind, Descriptor.column, mapped]
      | some column =>
        simp only [OrderedMap.contains, mapped, Option.isSome_some, Bool.not_true] at unmapped
        have refused := @inductionHypothesis (source.evaluate surroundings).2 unmapped
        simp only [Work.perform_bind, Descriptor.column, mapped, Work.perform_lift,
          perform_produce]
        generalize (boundColumns descriptor rest).perform _ = bound at refused ⊢
        obtain ⟨answer, after⟩ := bound
        cases refused
        rfl

/-- Binding the values of a row succeeds if its properties are mapped. -/
theorem boundColumns_mapped
    (mapped : (sources.map Prod.fst).find? (fun property =>
      !descriptor.columns.contains property) = none) :
    ∃ entries, ((boundColumns descriptor sources).perform surroundings).1 = .ok entries := by
  induction sources generalizing surroundings with
  | nil => exact ⟨[], rfl⟩
  | cons first rest inductionHypothesis =>
    obtain ⟨name, source⟩ := first
    rw [List.map_cons, List.find?_cons] at mapped
    cases known : descriptor.columns.get? name with
    | none => simp [OrderedMap.contains, known] at mapped
    | some column =>
      simp only [OrderedMap.contains, known, Option.isSome_some, Bool.not_true] at mapped
      rw [boundColumns]
      split
      · exact inductionHypothesis mapped
      · obtain ⟨entries, bound⟩ := @inductionHypothesis (source.evaluate surroundings).2 mapped
        simp only [Work.perform_bind, Descriptor.column, known, Work.perform_lift, perform_produce]
        generalize (boundColumns descriptor rest).perform _ = others at bound ⊢
        obtain ⟨answer, after⟩ := others
        cases bound
        exact ⟨_, rfl⟩

/-- A row with an unmapped property cannot be inserted. -/
theorem insert_unmapped (unmapped : row.unmapped? descriptor = some property)
    (builder : CommandBuilder) :
    ((insert descriptor builder row).perform surroundings).1 =
      .error (.unmappedProperty property descriptor.table) :=
  Work.perform_bind_error (boundColumns_unmapped unmapped) _

/-- The statement that inserts a row is not written if a property is not mapped. -/
theorem createNew_unmapped (unmapped : row.unmapped? descriptor = some property) :
    ((createNew descriptor row).perform surroundings).1 =
      .error (.unmappedProperty property descriptor.table) :=
  Work.perform_bind_error (insert_unmapped unmapped _) _

/-- The statement that inserts a row is written if all its properties are mapped. -/
theorem createNew_mapped (mapped : row.unmapped? descriptor = none) :
    ∃ command, ((createNew descriptor row).perform surroundings).1 = .ok command := by
  obtain ⟨entries, bound⟩ : ∃ entries, ((boundColumns descriptor row.values.entries).perform
      surroundings).1 = .ok entries := boundColumns_mapped mapped
  rw [createNew, Work.perform_bind, perform_insert, bound]
  exact ⟨_, rfl⟩

/-- No mode that inserts has a statement for a row with an unmapped property. -/
theorem command_unmapped {mode : OpenMode} (creates : mode.createsRow = true) (filter : Clause)
    (unmapped : row.unmapped? descriptor = some property) :
    ((command descriptor mode filter (some row)).perform surroundings).1 =
      .error (.unmappedProperty property descriptor.table) := by
  cases mode with
  | openExisting | append | truncate => cases creates
  | createNew => exact Work.perform_bind_error (createNew_unmapped unmapped) _
  | create | openOrCreate =>
    exact Work.perform_bind_error (Work.perform_bind_error (insert_unmapped unmapped _) _) _

end Lifecycle

end RowPayload
