import RowPayload.Proofs.Record.Rebuilding
import RowPayload.Proofs.Sample

/-!
# Filling a record from a row

A record starts blank and is filled field by field, in the order of the schema. A field is read
if it is not skipped, is mapped, and the row has its column, whatever the case of the letters. Its
setter is handed the value of the column as the type of the field reads it, and every other field
is passed over. The first field that is refused decides how filling ends.

In a row whose column names differ by more than the case of their letters a name leads to one
value at most. So the order of the columns makes no difference to the record.
-/

namespace RowPayload

variable {ρ : Type}

/-! ## Rows -/

namespace ResultRow

/-- A row has a value for each of its columns, whose names differ by more than the case of their
letters. -/
structure Tabular (row : ResultRow) : Prop where
  even : row.columns.length = row.values.length
  distinct : row.columns.Pairwise fun first second => Text.sameLetters first second = false

/-- The columns of a row, each with its value. -/
def cells (row : ResultRow) : List (String × Value) := row.columns.zip row.values

/-- A row has a value in a column of a name, whatever the case of its letters. -/
def Holds (row : ResultRow) (name : String) (value : Value) : Prop :=
  ∃ column, (column, value) ∈ row.cells ∧ Text.sameLetters column name = true

variable {row other : ResultRow} {name : String} {value : Value}

/-- In a tabular row two columns of one name are the same. -/
theorem Tabular.place_eq (tabular : row.Tabular) {place elsewhere : Nat} {column also : String}
    (there : row.columns[place]? = some column) (thereToo : row.columns[elsewhere]? = some also)
    (same : Text.sameLetters column name = true) (sameToo : Text.sameLetters also name = true) :
    place = elsewhere := by
  obtain ⟨inside, rfl⟩ := List.getElem?_eq_some_iff.1 there
  obtain ⟨insideToo, rfl⟩ := List.getElem?_eq_some_iff.1 thereToo
  have folded : Text.lower row.columns[place].toList = Text.lower row.columns[elsewhere].toList :=
    (eq_of_beq same).trans (eq_of_beq sameToo).symm
  have apart := List.pairwise_iff_getElem.1 tabular.distinct
  rcases Nat.lt_trichotomy place elsewhere with before | equal | after
  · exact absurd folded (beq_eq_false_iff_ne.1 (apart _ _ inside insideToo before))
  · exact equal
  · exact absurd folded.symm (beq_eq_false_iff_ne.1 (apart _ _ insideToo inside after))

/-- **A name is looked up as what the row holds under it**, whatever the case of its letters. -/
theorem Tabular.value?_eq_some_iff (tabular : row.Tabular) :
    row.value? name = some value ↔ row.Holds name value := by
  constructor
  · intro known
    obtain ⟨place, found, there⟩ := Option.bind_eq_some_iff.1 known
    obtain ⟨column, listed, same⟩ : ∃ column, row.columns[place]? = some column ∧
        Text.sameLetters column name = true := by
      rcases Option.or_eq_some_iff.1 found with exactly | ⟨-, folded⟩
      · obtain ⟨inside, equal, -⟩ := List.findIdx?_eq_some_iff_getElem.1 exactly
        refine ⟨_, List.getElem?_eq_getElem inside, ?_⟩
        rw [eq_of_beq equal]
        exact beq_self_eq_true _
      · obtain ⟨inside, same, -⟩ := List.findIdx?_eq_some_iff_getElem.1 folded
        exact ⟨_, List.getElem?_eq_getElem inside, same⟩
    exact ⟨column, List.mem_of_getElem? (List.getElem?_zip_eq_some.2 ⟨listed, there⟩), same⟩
  · rintro ⟨column, member, same⟩
    obtain ⟨place, there⟩ := List.mem_iff_getElem?.1 member
    obtain ⟨listed, held⟩ := List.getElem?_zip_eq_some.1 there
    refine value?_of_all ⟨column, List.mem_of_getElem? listed, same⟩ ?_
    intro elsewhere also listedToo sameToo
    rw [← tabular.place_eq listed listedToo same sameToo]
    exact held

/-- A row with the cells of a tabular row in another order is tabular. -/
theorem Tabular.of_perm (tabular : row.Tabular) (even : other.columns.length = other.values.length)
    (permuted : other.cells.Perm row.cells) : other.Tabular := by
  refine ⟨even, ?_⟩
  have columns : other.columns.Perm row.columns := by
    have names := permuted.map Prod.fst
    rwa [cells, cells, List.map_fst_zip (Nat.le_of_eq even),
      List.map_fst_zip (Nat.le_of_eq tabular.even)] at names
  refine (columns.pairwise_iff ?_).2 tabular.distinct
  intro first second apart
  exact beq_eq_false_iff_ne.2 (Ne.symm (beq_eq_false_iff_ne.1 apart))

/-- The order of the columns makes no difference to what is found under a name. -/
theorem Tabular.value?_perm (tabular : row.Tabular)
    (even : other.columns.length = other.values.length) (permuted : other.cells.Perm row.cells)
    (name : String) : other.value? name = row.value? name := by
  refine Option.ext fun value => ?_
  rw [(tabular.of_perm even permuted).value?_eq_some_iff, tabular.value?_eq_some_iff]
  simp only [Holds, permuted.mem_iff]

end ResultRow

/-! ## Fields -/

/-- A mismatch that names no column is placed at a column, and any other error stays as it is. -/
inductive Error.Placed (column : String) : Error → Error → Prop where
  | unnamed (expected actual : String) :
      Placed column (.typeMismatch "" expected actual) (.typeMismatch column expected actual)
  | other {fault : Error} (named : ∀ expected actual, fault ≠ .typeMismatch "" expected actual) :
      Placed column fault fault

/-- An error is placed at a column in one way. -/
theorem Error.placed_iff {column : String} {raised fault : Error} :
    Placed column raised fault ↔ raised.atColumn column = fault := by
  unfold atColumn
  split
  · rename_i expected actual
    constructor
    · rintro (_ | named)
      · rfl
      · exact absurd rfl (named expected actual)
    · rintro rfl
      exact .unnamed expected actual
  · rename_i named
    constructor
    · rintro (_ | _)
      · exact absurd rfl (named _ _)
      · rfl
    · rintro rfl
      exact .other named

/-- The setters of a schema each write their own slot: setting a field leaves what every slot
holds alone but that of the field's place. -/
def Schema.OwnSlots (schema : Schema ρ) {γ : Nat → Type} (slot : (place : Nat) → ρ → γ place) :
    Prop :=
  ∀ (place : Nat) (field : Field ρ), schema.fields[place]? = some field →
    ∀ other, other ≠ place → field.Leaves (slot other)

namespace Materialize

/-- A field is read from a row: it is not skipped, is mapped to a column of a name, and the row
has a value there. -/
structure Reads (descriptor : Descriptor) (skipped : List String) (row : ResultRow)
    (field : Field ρ) (name : String) (raw : Value) : Prop where
  wanted : field.name ∉ skipped
  mapped : ∃ column, descriptor.columns.get? field.name = some column ∧ Bracket.strip column = name
  held : row.Holds name raw

/-- The record once the fields before a place are filled. -/
def filledTo (schema : Schema ρ) (descriptor : Descriptor) (skipped : List String)
    (row : ResultRow) (place : Nat) : Except Error ρ :=
  (schema.fields.take place).foldlM (fill descriptor skipped row) schema.blank

/-- On the way to a record the setter of the field at a place is called with a value, when the
fields before it are filled, and the fields after it are filled from there. -/
structure Sets (schema : Schema ρ) (descriptor : Descriptor) (skipped : List String)
    (row : ResultRow) (record : ρ) (place : Nat) (value : Value) (after : ρ) : Prop where
  called : ∃ field before, schema.fields[place]? = some field ∧
    filledTo schema descriptor skipped row place = .ok before ∧ field.set value before = .ok after
  followed : (schema.fields.drop (place + 1)).foldlM (fill descriptor skipped row) after =
    .ok record

/-- A field at a place is the first to be refused: it is read when the fields before it are
filled, and its type refuses the value or its setter does. -/
inductive Refused (schema : Schema ρ) (descriptor : Descriptor) (skipped : List String)
    (row : ResultRow) (place : Nat) : Error → Prop where
  | type {field : Field ρ} {before : ρ} {name : String} {raw : Value} {fault : Error}
      (declared : schema.fields[place]? = some field)
      (reached : filledTo schema descriptor skipped row place = .ok before)
      (reads : Reads descriptor skipped row field name raw)
      (refused : field.type.read name raw = .error fault) :
      Refused schema descriptor skipped row place fault
  | setter {field : Field ρ} {before : ρ} {name : String} {raw value : Value}
      {raised fault : Error}
      (declared : schema.fields[place]? = some field)
      (reached : filledTo schema descriptor skipped row place = .ok before)
      (reads : Reads descriptor skipped row field name raw)
      (typed : field.type.read name raw = .ok value)
      (refused : field.set value before = .error raised)
      (placed : Error.Placed name raised fault) :
      Refused schema descriptor skipped row place fault

section

variable {schema : Schema ρ} {descriptor : Descriptor} {skipped : List String}
  {row : ResultRow} {field : Field ρ} {name : String} {raw value : Value} {before after record : ρ}
  {fault : Error}

/-- A field that is wanted and mapped has its source under the text of its column without
brackets. -/
theorem source?_of_mapped (row : ResultRow) (wanted : field.name ∉ skipped) {column : String}
    (mapped : descriptor.columns.get? field.name = some column) :
    source? descriptor skipped row field =
      (row.value? (Bracket.strip column)).map fun raw => (Bracket.strip column, raw) := by
  have unlisted : ¬ skipped.contains field.name = true := by simpa using wanted
  rw [source?, if_neg unlisted, mapped]
  simp only [bind, Option.bind]
  cases row.value? (Bracket.strip column) <;> rfl

/-- In a tabular row a field has a source exactly if it is read from there. -/
theorem source?_eq_some_iff (tabular : row.Tabular) :
    source? descriptor skipped row field = some (name, raw) ↔
      Reads descriptor skipped row field name raw := by
  constructor
  · intro known
    have wanted : field.name ∉ skipped := by
      intro skip
      rw [source?, List.contains_iff_mem.2 skip] at known
      cases known
    cases mapped : descriptor.columns.get? field.name with
    | none =>
      rw [source?, mapped] at known
      split at known <;> cases known
    | some column =>
      rw [source?_of_mapped row wanted mapped] at known
      obtain ⟨_, held, known⟩ := Option.map_eq_some_iff.1 known
      cases known
      exact ⟨wanted, ⟨column, mapped, rfl⟩, tabular.value?_eq_some_iff.1 held⟩
  · rintro ⟨wanted, ⟨column, mapped, rfl⟩, held⟩
    rw [source?_of_mapped row wanted mapped, tabular.value?_eq_some_iff.2 held]
    rfl

/-- A field that has a source and is filled is set to the value that its type reads. -/
theorem fill_ok (source : source? descriptor skipped row field = some (name, raw))
    (filled : fill descriptor skipped row before field = .ok after) :
    ∃ value, field.type.read name raw = .ok value ∧ field.set value before = .ok after := by
  unfold fill at filled
  rw [source] at filled
  obtain ⟨value, typed, set⟩ := Checked.bind_ok filled
  refine ⟨value, typed, ?_⟩
  cases answer : field.set value before with
  | error raised =>
    rw [answer] at set
    cases set
  | ok next =>
    rw [answer] at set
    exact set

/-- A field without a source is passed over. -/
theorem fill_of_none (source : source? descriptor skipped row field = none) :
    fill descriptor skipped row before field = .ok before := by
  rw [fill, source]

/-- A field with a source is refused as its type refuses the value, or as its setter does. -/
theorem fill_error_iff (source : source? descriptor skipped row field = some (name, raw)) :
    fill descriptor skipped row before field = .error fault ↔
      field.type.read name raw = .error fault ∨ ∃ value raised,
        field.type.read name raw = .ok value ∧ field.set value before = .error raised ∧
          raised.atColumn name = fault := by
  rw [fill, source]
  show (field.type.read name raw >>= fun value =>
    (field.set value before).mapError (Error.atColumn name)) = .error fault ↔ _
  cases typed : field.type.read name raw with
  | error own => simp [bind, Except.bind]
  | ok value =>
    show (field.set value before).mapError (Error.atColumn name) = .error fault ↔ _
    cases set : field.set value before with
    | error raised =>
      show Except.error (raised.atColumn name) = .error fault ↔ _
      simp [set]
    | ok next =>
      show Except.ok next = .error fault ↔ _
      simp [set]

/-- **A field that has a source has had its setter called** with the value that its type reads, on
the way to the record. -/
theorem sets_of_source (filled : Materialize.record schema descriptor skipped row = .ok record)
    {place : Nat} (declared : schema.fields[place]? = some field)
    (source : source? descriptor skipped row field = some (name, raw)) :
    ∃ value after, field.type.read name raw = .ok value ∧
      Sets schema descriptor skipped row record place value after := by
  obtain ⟨before, after, reached, passed, followed⟩ := Checked.foldlM_ok_at filled declared
  obtain ⟨value, typed, set⟩ := fill_ok source passed
  exact ⟨value, after, typed, ⟨field, before, declared, reached, set⟩, followed⟩

/-- What the setters of some fields leave alone stays as it is while they are filled. -/
theorem seen_foldlM_fill {α : Type} {seen : ρ → α} {fields : List (Field ρ)}
    (leaves : ∀ field ∈ fields, field.Leaves seen)
    (filled : fields.foldlM (fill descriptor skipped row) before = .ok after) :
    seen after = seen before := by
  induction fields generalizing before with
  | nil =>
    cases filled
    rfl
  | cons first rest inductionHypothesis =>
    rw [List.foldlM_cons] at filled
    obtain ⟨next, passed, others⟩ := Checked.bind_ok filled
    have stays := inductionHypothesis
      (fun field member => leaves field (List.mem_cons_of_mem _ member)) others
    rw [stays]
    cases source : source? descriptor skipped row first with
    | none =>
      rw [fill_of_none source] at passed
      cases passed
      rfl
    | some found =>
      obtain ⟨value, -, set⟩ := fill_ok source passed
      exact leaves first List.mem_cons_self value before next set

/-- The slot of a field holds at the end what its setter has stored there. -/
theorem Sets.slot_eq {γ : Nat → Type} {slot : (place : Nat) → ρ → γ place}
    (own : schema.OwnSlots slot) {place : Nat}
    (sets : Sets schema descriptor skipped row record place value after) :
    slot place record = slot place after := by
  refine seen_foldlM_fill (fun field member => ?_) sets.followed
  obtain ⟨later, there⟩ := List.mem_iff_getElem?.1 member
  rw [List.getElem?_drop] at there
  exact own _ field there place (by omega)

/-- The slot of a place whose field is not read holds what the blank record does. -/
theorem slot_of_unread {γ : Nat → Type} {slot : (place : Nat) → ρ → γ place}
    (own : schema.OwnSlots slot)
    (filled : Materialize.record schema descriptor skipped row = .ok record) {place : Nat}
    (unread : ∀ field, schema.fields[place]? = some field →
      source? descriptor skipped row field = none) :
    slot place record = slot place schema.blank := by
  have untouched {fields : List (Field ρ)} {start finish : ρ}
      (others : ∀ field ∈ fields, ∃ elsewhere, schema.fields[elsewhere]? = some field ∧
        place ≠ elsewhere)
      (filled : fields.foldlM (fill descriptor skipped row) start = .ok finish) :
      slot place finish = slot place start := by
    refine seen_foldlM_fill (fun field member => ?_) filled
    obtain ⟨elsewhere, there, apart⟩ := others field member
    exact own elsewhere field there place apart
  cases declared : schema.fields[place]? with
  | none =>
    refine untouched (fun field member => ?_) filled
    obtain ⟨elsewhere, there⟩ := List.mem_iff_getElem?.1 member
    refine ⟨elsewhere, there, ?_⟩
    rintro rfl
    rw [declared] at there
    cases there
  | some field =>
    -- Neither the fields before the place nor those after it write its slot.
    obtain ⟨before, after, reached, passed, followed⟩ := Checked.foldlM_ok_at filled declared
    rw [fill_of_none (unread field declared)] at passed
    cases passed
    refine (untouched (fun other member => ?_) followed).trans
      (untouched (fun other member => ?_) reached)
    · obtain ⟨later, there⟩ := List.mem_iff_getElem?.1 member
      rw [List.getElem?_drop] at there
      exact ⟨_, there, by omega⟩
    · obtain ⟨earlier, there⟩ := List.mem_iff_getElem?.1 member
      rw [List.getElem?_take] at there
      split at there
      · exact ⟨earlier, there, by omega⟩
      · cases there

/-- Filling ends as the first field does that is refused. -/
theorem record_error_iff (tabular : row.Tabular) :
    Materialize.record schema descriptor skipped row = .error fault ↔
      ∃ place, Refused schema descriptor skipped row place fault := by
  rw [Materialize.record, Checked.foldlM_error_iff]
  constructor
  · rintro ⟨place, field, before, declared, reached, failed⟩
    cases source : source? descriptor skipped row field with
    | none =>
      rw [fill_of_none source] at failed
      cases failed
    | some found =>
      have reads := (source?_eq_some_iff tabular).1 source
      rcases (fill_error_iff source).1 failed with refused | ⟨value, raised, typed, refused, placed⟩
      · exact ⟨place, .type declared reached reads refused⟩
      · exact ⟨place, .setter declared reached reads typed refused (Error.placed_iff.2 placed)⟩
  · rintro ⟨place, ⟨declared, reached, reads, refused⟩ |
      ⟨declared, reached, reads, typed, refused, placed⟩⟩
    · have source := (source?_eq_some_iff tabular).2 reads
      exact ⟨place, _, _, declared, reached, (fill_error_iff source).2 (.inl refused)⟩
    · have source := (source?_eq_some_iff tabular).2 reads
      exact ⟨place, _, _, declared, reached, (fill_error_iff source).2
        (.inr ⟨_, _, typed, refused, Error.placed_iff.1 placed⟩)⟩

/-- The order of the columns makes no difference to the source of a field. -/
theorem source?_perm {other : ResultRow} (tabular : row.Tabular)
    (even : other.columns.length = other.values.length) (permuted : other.cells.Perm row.cells)
    (field : Field ρ) :
    source? descriptor skipped other field = source? descriptor skipped row field := by
  unfold source?
  simp only [tabular.value?_perm even permuted]

end

/-- **Exactly the fields that are read are filled, whatever the order of the columns.** Take a
schema whose setters each write their own slot, and a tabular row. If filling succeeds, every
field that is read has had its setter called with the value that its type reads from the column of
its name, and its slot holds what the setter has stored there; every other slot holds what the
blank record does. Filling fails exactly if a field is refused, and as the first such field in the
order of the schema: with the error of its type, or with that of its setter, placed at the column
if it is a mismatch that names none. A row with the same columns and values in another order comes
to the same. -/
theorem fills_readable_fields (schema : Schema ρ) {γ : Nat → Type}
    {slot : (place : Nat) → ρ → γ place} (own : schema.OwnSlots slot) (descriptor : Descriptor)
    (skipped : List String) {row : ResultRow} (tabular : row.Tabular) :
    (∀ filled, record schema descriptor skipped row = .ok filled → ∀ place,
      (∀ field name raw, schema.fields[place]? = some field →
        Reads descriptor skipped row field name raw →
          ∃ value after, field.type.read name raw = .ok value ∧
            Sets schema descriptor skipped row filled place value after ∧
              slot place filled = slot place after) ∧
      ((∀ field name raw, schema.fields[place]? = some field →
        ¬ Reads descriptor skipped row field name raw) →
          slot place filled = slot place schema.blank)) ∧
    (∀ fault, record schema descriptor skipped row = .error fault ↔
      ∃ place, Refused schema descriptor skipped row place fault) ∧
    ∀ other : ResultRow, other.columns.length = other.values.length →
      other.cells.Perm row.cells →
        record schema descriptor skipped other = record schema descriptor skipped row := by
  refine ⟨fun filled done place => ⟨?_, ?_⟩, fun fault => record_error_iff tabular, ?_⟩
  · intro field name raw declared reads
    obtain ⟨value, after, typed, sets⟩ :=
      sets_of_source done declared ((source?_eq_some_iff tabular).2 reads)
    exact ⟨value, after, typed, sets, sets.slot_eq own⟩
  · intro unread
    refine slot_of_unread own done fun field declared => ?_
    cases source : source? descriptor skipped row field with
    | none => rfl
    | some found =>
      exact absurd ((source?_eq_some_iff tabular).1 source) (unread field _ _ declared)
  · intro other even permuted
    have same : fill descriptor skipped other = fill (ρ := ρ) descriptor skipped row := by
      funext before field
      rw [fill, fill, source?_perm tabular even permuted]
    rw [record, record, same]

end Materialize

/-! ## A recording -/

namespace Sample

/-- Recordings as pairs of a number and a title. -/
def pairs : Schema (Value × Value) where
  typeName := "Recording"
  blank := (.null, .text "untitled")
  fields := [
    ⟨"id", .required .bigInt, Prod.fst, fun value record => .ok (value, record.2)⟩,
    ⟨"title", .optional .nvarChar, Prod.snd, fun value record => .ok (record.1, value)⟩]

/-- The number is the first slot and the title the second; there are no others. -/
def pairSlot : (place : Nat) → Value × Value → Value
  | 0, record => record.1
  | 1, record => record.2
  | _, _ => .null

/-- The setters of recordings each write their own slot. -/
theorem ownSlots_pairs : pairs.OwnSlots pairSlot := by
  intro place field declared other apart value before after set
  match place with
  | 0 =>
    cases declared
    cases set
    match other with
    | 0 => exact absurd rfl apart
    | 1 => rfl
    | _ + 2 => rfl
  | 1 =>
    cases declared
    cases set
    match other with
    | 0 => rfl
    | 1 => exact absurd rfl apart
    | _ + 2 => rfl
  | _ + 2 => cases declared

/-- A row with the columns of a recording, the title first, in other letters. -/
def shuffled : ResultRow := ⟨["", "TITLE", "Id"], [.null, .text "Dawn", .int 7]⟩

/-- The columns differ by more than the case of their letters. -/
theorem tabular_shuffled : shuffled.Tabular := ⟨rfl, by decide⟩

end Sample

/-- A recording is filled from a row that has its columns in another order and other letters. The
number is widened as its field reads it, the title is set, and the row in order comes to the same.
If the number is not there to be read, its slot holds what the blank recording does. -/
theorem fills_readable_fields_shuffled :
    (Sample.pairs.OwnSlots Sample.pairSlot ∧ Sample.shuffled.Tabular) ∧
      Materialize.record Sample.pairs Sample.descriptor ["sound"] Sample.shuffled =
        .ok (.bigInt 7, .text "Dawn") ∧
      (∃ value after, (FieldType.required .bigInt).read "Id" (.int 7) = .ok value ∧
        Materialize.Sets Sample.pairs Sample.descriptor ["sound"] Sample.shuffled
          (.bigInt 7, .text "Dawn") 0 value after ∧
        Sample.pairSlot 0 (.bigInt 7, .text "Dawn") = Sample.pairSlot 0 after) ∧
      (¬ ∃ place, Materialize.Refused Sample.pairs Sample.descriptor ["sound"] Sample.shuffled
        place (.typeMismatch "Id" "BIGINT" "string")) ∧
      Materialize.record Sample.pairs Sample.descriptor ["sound"]
        ⟨["Id", "", "TITLE"], [.int 7, .null, .text "Dawn"]⟩ = .ok (.bigInt 7, .text "Dawn") := by
  have done : Materialize.record Sample.pairs Sample.descriptor ["sound"] Sample.shuffled =
      .ok (.bigInt 7, .text "Dawn") := Checked.eq_ok_of_toOption (by decide +kernel)
  obtain ⟨succeeds, fails, ordered⟩ := Materialize.fills_readable_fields Sample.pairs
    Sample.ownSlots_pairs Sample.descriptor ["sound"] Sample.tabular_shuffled
  refine ⟨⟨Sample.ownSlots_pairs, Sample.tabular_shuffled⟩, done, ?_, ?_, ?_⟩
  · exact (succeeds _ done 0).1 _ "Id" (.int 7) rfl
      ⟨by decide, ⟨"[Id]", by decide, by decide⟩, ⟨"Id", by decide, by decide⟩⟩
  · rw [← fails, done]
    nofun
  · rw [ordered ⟨["Id", "", "TITLE"], [.int 7, .null, .text "Dawn"]⟩ rfl (by decide), done]

end RowPayload
