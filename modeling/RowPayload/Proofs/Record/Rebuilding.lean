import RowPayload.Materialize
import RowPayload.NewRow
import RowPayload.Proofs.Work.Checked

/-!
# Rebuilding a record

A record is rebuilt from the blank one by its setters, each of which is handed a value. A value
that a field accepts is handed on as it is, but for the width of an integer. So a record whose
values were stored comes back as its setters make it of the same values, whatever row they are
read from, as long as the row has each of them under the column of its field.
-/

namespace RowPayload

variable {ρ ε : Type}

/-! ## Values that are accepted -/

/-- A value of a width that a number fits has the number. -/
theorem IntegerWidth.integer?_value? {width : IntegerWidth} {number : Int} {value : Value}
    (fits : width.value? number = some value) : value.integer? = some number := by
  unfold value? at fits
  split at fits
  · rename_i inside
    rw [holds, Bool.and_eq_true, decide_eq_true_eq, decide_eq_true_eq] at inside
    obtain ⟨least, greatest⟩ := inside
    cases width with
    | tiny =>
      cases fits
      have small : number.toNat < 2 ^ 8 := by
        simp only [IntegerWidth.least, IntegerWidth.greatest] at least greatest
        omega
      show some ((UInt8.ofNat number.toNat).toNat : Int) = some number
      rw [UInt8.toNat_ofNat', Nat.mod_eq_of_lt small, Int.toNat_of_nonneg least]
    | small =>
      cases fits
      exact congrArg some (Int16.toInt_ofInt_of_le least (Int.lt_of_le_sub_one greatest))
    | regular =>
      cases fits
      exact congrArg some (Int32.toInt_ofInt_of_le least (Int.lt_of_le_sub_one greatest))
    | big =>
      cases fits
      exact congrArg some (Int64.toInt_ofInt_of_le least (Int.lt_of_le_sub_one greatest))
  · cases fits

/-- A value is the same as another but for the width of an integer. -/
def Value.SameButWidth (value other : Value) : Prop :=
  value.integer? = other.integer? ∧ (other.integer? = none → value = other)

/-- A type reads a value as the same but for the width of an integer. -/
theorem SqlType.sameButWidth_of_read {type : SqlType} {column : String} {value read : Value}
    (accepted : type.read column value = .ok read) : read.SameButWidth value := by
  unfold SqlType.read at accepted
  split at accepted
  · rename_i held fits
    cases accepted
    unfold fit? at fits
    split at fits
    · obtain ⟨number, known, fits⟩ := Option.bind_eq_some_iff.1 fits
      rw [Value.SameButWidth, IntegerWidth.integer?_value? fits, known]
      exact ⟨rfl, nofun⟩
    · split at fits
      · cases fits
        exact ⟨rfl, fun _ => rfl⟩
      · cases fits
  · cases accepted

namespace FieldType

variable {type : FieldType} {column : String} {value read : Value}

/-- **A field reads a value as the same** but for the width of an integer. -/
theorem sameButWidth_of_read (accepted : type.read column value = .ok read) :
    read.SameButWidth value := by
  unfold FieldType.read at accepted
  split at accepted
  · rename_i null
    split at accepted
    · cases accepted
      cases value <;> first | exact ⟨rfl, fun _ => rfl⟩ | cases null
    · cases accepted
  · split at accepted
    · cases accepted
    · exact SqlType.sameButWidth_of_read accepted

/-- What a field accepts it accepts from any column. -/
theorem read_of_read (accepted : type.read column value = .ok read) (other : String) :
    type.read other value = .ok read := by
  unfold FieldType.read at accepted ⊢
  split at accepted
  · rename_i null
    rw [if_pos null]
    split at accepted
    · rename_i nullable
      rw [if_pos nullable]
      exact accepted
    · cases accepted
  · rename_i some
    rw [if_neg some]
    split at accepted
    · cases accepted
    · rename_i plain
      rw [if_neg plain]
      unfold SqlType.read at accepted ⊢
      split at accepted
      · exact accepted
      · cases accepted

end FieldType

/-! ## Setters -/

/-- Fill fields of a record one after another, each but the payload with its value. -/
def Field.fillAll (payload : String) (value : Field ρ → Value) (fields : List (Field ρ))
    (start : ρ) : Except Error ρ :=
  fields.foldlM (fun record field =>
    if field.name = payload then .ok record else field.set (value field) record) start

/-- The record that the setters of a schema make of the blank one, each but that of the payload
being handed its value. -/
def Schema.filled (schema : Schema ρ) (payload : String) (value : Field ρ → Value) :
    Except Error ρ :=
  Field.fillAll payload value schema.fields schema.blank

/-- The setter of a field leaves what is seen of records alone. -/
def Field.Leaves {α : Type} (field : Field ρ) (seen : ρ → α) : Prop :=
  ∀ value before after, field.set value before = .ok after → seen after = seen before

namespace Field

variable {α : Type} {payload : String} {value : Field ρ → Value} {fields : List (Field ρ)}
  {start record : ρ}

/-- The first field is filled and then the others. -/
theorem fillAll_cons {first : Field ρ} (filled : fillAll payload value (first :: fields) start =
      .ok record) :
    ∃ next, (if first.name = payload then .ok start else first.set (value first) start) = .ok next ∧
      fillAll payload value fields next = .ok record := by
  rw [fillAll, List.foldlM_cons] at filled
  exact Checked.bind_ok filled

/-- What every setter leaves alone is as it was. -/
theorem seen_fillAll (filled : fillAll payload value fields start = .ok record) (seen : ρ → α)
    (leaves : ∀ field ∈ fields, field.name ≠ payload → field.Leaves seen) :
    seen record = seen start := by
  induction fields generalizing start with
  | nil =>
    cases filled
    rfl
  | cons first rest inductionHypothesis =>
    obtain ⟨next, set, filled⟩ := fillAll_cons filled
    rw [inductionHypothesis filled fun field member =>
      leaves field (List.mem_cons_of_mem _ member)]
    split at set
    · cases set
      rfl
    · rename_i own
      exact leaves first (by simp) own _ _ _ set

/-- What the setters of the other fields leave alone is as the setter of a field has made it. -/
theorem seen_of_fillAll (filled : fillAll payload value fields start = .ok record)
    {field : Field ρ} (member : field ∈ fields) (own : field.name ≠ payload)
    (distinct : (fields.map Field.name).Nodup) :
    ∃ before after, field.set (value field) before = .ok after ∧
      ∀ {α : Type} (seen : ρ → α), (∀ other ∈ fields, other.name ≠ field.name →
        other.name ≠ payload → other.Leaves seen) → seen record = seen after := by
  induction fields generalizing start with
  | nil => cases member
  | cons first rest inductionHypothesis =>
    obtain ⟨next, set, others⟩ := fillAll_cons filled
    rw [List.map_cons, List.nodup_cons] at distinct
    rcases List.mem_cons.1 member with rfl | later
    · rw [if_neg own] at set
      refine ⟨start, next, set, fun seen leaves => seen_fillAll others seen ?_⟩
      intro other later another
      have different : other.name ≠ field.name := fun same =>
        distinct.1 (same ▸ List.mem_map_of_mem later)
      exact leaves other (List.mem_cons_of_mem _ later) different another
    · obtain ⟨before, after, stores, kept⟩ := inductionHypothesis others later distinct.2
      exact ⟨before, after, stores, fun seen leaves => kept seen fun other member =>
        leaves other (List.mem_cons_of_mem _ member)⟩

end Field

/-! ## New rows -/

/-- A key that is new comes last. -/
theorem OrderedMap.entries_insert_of_new {κ α : Type} [DecidableEq κ] {map : OrderedMap κ α}
    {key : κ} (new : key ∉ map.keys) (value : α) :
    (map.insert key value).entries = map.entries ++ [(key, value)] := by
  obtain ⟨entries, distinct⟩ := map
  show insertEntry key value entries = entries ++ [(key, value)]
  have absent : key ∉ entries.map Prod.fst := new
  clear distinct new
  induction entries with
  | nil => rfl
  | cons entry rest inductionHypothesis =>
    obtain ⟨other, old⟩ := entry
    rw [List.map_cons, List.mem_cons, not_or] at absent
    rw [insertEntry, if_neg (Ne.symm absent.1), inductionHypothesis absent.2, List.cons_append]

/-- The new row of a record whose fields have names of their own has the value of each field, in
order. -/
theorem NewRow.entries_ofRecord {schema : Schema ρ}
    (distinct : (schema.fields.map Field.name).Nodup) (record : ρ) : (ofRecord schema record : NewRow ε).values.entries =
      schema.fields.map fun field => (field.name, .literal (field.get record)) := by
  -- The names that are set already are none of those to come.
  have all : ∀ (fields : List (Field ρ)) (row : NewRow ε),
      (row.values.keys ++ fields.map Field.name).Nodup →
      (fields.foldl (fun row field => row.set field.name (field.get record)) row).values.entries =
        row.values.entries ++
          fields.map fun field => (field.name, .literal (field.get record)) := by
    intro fields
    induction fields with
    | nil => simp
    | cons first rest inductionHypothesis =>
      intro row distinct
      have new : first.name ∉ row.values.keys := by
        intro member
        exact (List.nodup_append.1 distinct).2.2 _ member _ (by simp) rfl
      have entries : (row.set first.name (first.get record)).values.entries =
          row.values.entries ++ [(first.name, .literal (first.get record))] :=
        OrderedMap.entries_insert_of_new new _
      have keys : (row.set first.name (first.get record)).values.keys =
          row.values.keys ++ [first.name] := by
        rw [OrderedMap.keys, entries, List.map_append]
        rfl
      rw [List.foldl_cons, inductionHypothesis _ (by rw [keys]; simpa using distinct), entries]
      simp
  exact all schema.fields empty distinct

/-! ## Rows -/

/-- A name whose column is there finds a value if every column of the name, whatever the case of
its letters, has this value. -/
theorem ResultRow.value?_of_all {row : ResultRow} {name : String} {value : Value}
    (present : ∃ column ∈ row.columns, Text.sameLetters column name = true)
    (all : ∀ (place : Nat) (column : String), row.columns[place]? = some column →
      Text.sameLetters column name = true → row.values[place]? = some value) :
    row.value? name = some value := by
  have exact_same : ∀ column : String, (column == name) = true →
      Text.sameLetters column name = true := by
    intro column same
    rw [eq_of_beq same]
    exact beq_self_eq_true _
  have found {place : Nat} {test : String → Bool} (tells : ∀ column, test column = true →
      Text.sameLetters column name = true) (first : row.columns.findIdx? test = some place) :
      row.values[place]? = some value := by
    obtain ⟨inside, passed, -⟩ := List.findIdx?_eq_some_iff_getElem.1 first
    exact all place _ (List.getElem?_eq_getElem inside) (tells _ passed)
  rw [value?, ordinal?]
  cases exactly : row.columns.findIdx? (· == name) with
  | some place => exact found exact_same exactly
  | none =>
    cases folded : row.columns.findIdx? (Text.sameLetters · name) with
    | some place => exact found (fun _ same => same) folded
    | none =>
      obtain ⟨column, member, same⟩ := present
      rw [List.findIdx?_eq_none_iff] at folded
      rw [folded column member] at same
      cases same

/-- A name finds nothing in a row none of whose columns has its letters. -/
theorem ResultRow.value?_eq_none {row : ResultRow} {name : String}
    (unshown : ∀ column ∈ row.columns, Text.sameLetters column name = false) :
    row.value? name = none := by
  have folded : row.columns.findIdx? (Text.sameLetters · name) = none := by
    simpa [List.findIdx?_eq_none_iff] using unshown
  have exactly : row.columns.findIdx? (· == name) = none := by
    rw [List.findIdx?_eq_none_iff]
    intro column member
    apply Bool.eq_false_iff.2
    intro same
    have apart := unshown column member
    rw [eq_of_beq same] at apart
    exact absurd (beq_self_eq_true (Text.lower name.toList)) (Bool.eq_false_iff.1 apart)
  rw [value?, ordinal?, exactly, folded]
  rfl

/-- **A record is rebuilt as its setters make it of the values** that its fields read from a
row. -/
theorem Materialize.record_of_source {schema : Schema ρ} {descriptor : Descriptor}
    {row : ResultRow} {value : Field ρ → Value} {record : ρ}
    (reads : ∀ field ∈ schema.fields, field.name ≠ descriptor.payload → ∃ name raw,
      source? descriptor [descriptor.payload] row field = some (name, raw) ∧
        field.type.read name raw = .ok (value field))
    (filled : schema.filled descriptor.payload value = .ok record) :
    Materialize.record schema descriptor [descriptor.payload] row = .ok record := by
  have all : ∀ (fields : List (Field ρ)) (start : ρ), fields ⊆ schema.fields →
      Field.fillAll descriptor.payload value fields start = .ok record →
      fields.foldlM (fill descriptor [descriptor.payload] row) start = .ok record := by
    intro fields
    induction fields with
    | nil => exact fun _ _ filled => filled
    | cons first rest inductionHypothesis =>
      intro start inside filled
      obtain ⟨next, set, filled⟩ := Field.fillAll_cons filled
      have step : fill descriptor [descriptor.payload] row start first = .ok next := by
        unfold fill
        by_cases payload : first.name = descriptor.payload
        · rw [if_pos payload] at set
          have skipped : source? descriptor [descriptor.payload] row first = none := by
            simp [source?, payload]
          rw [skipped]
          exact set
        · rw [if_neg payload] at set
          obtain ⟨name, raw, known, read⟩ := reads first (inside (by simp)) payload
          rw [known]
          simp only [read, bind, Except.bind, set]
          rfl
      rw [List.foldlM_cons, step]
      exact inductionHypothesis next (fun _ member => inside (by simp [member])) filled
  exact all schema.fields schema.blank (fun _ member => member) filled

end RowPayload
