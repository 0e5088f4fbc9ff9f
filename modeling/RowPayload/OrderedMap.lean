/-!
# Maps in insertion order

An `OrderedMap` lists its entries in the order their keys were first inserted.
Inserting under a key that is present replaces the value and keeps the place.
The keys are distinct by construction, so `get?` is the only reading of a key.
-/

namespace RowPayload

/-- Entries with distinct keys, in the order in which the keys first came. -/
structure OrderedMap (κ α : Type) where
  entries : List (κ × α)
  distinct : (entries.map Prod.fst).Nodup

namespace OrderedMap

variable {κ α : Type}

/-- Two maps are equal exactly when they list the same entries in the same order. -/
@[ext] theorem ext {left right : OrderedMap κ α} (entries : left.entries = right.entries) :
    left = right := by
  cases left
  cases right
  cases entries
  rfl

variable [DecidableEq κ]

/-- Replace the value of a key in its place, or append a new entry. -/
def insertEntry (key : κ) (value : α) : List (κ × α) → List (κ × α)
  | [] => [(key, value)]
  | (k, v) :: rest =>
    if k = key then (k, value) :: rest else (k, v) :: insertEntry key value rest

/-- The value filed under a key. -/
def find? (key : κ) : List (κ × α) → Option α
  | [] => none
  | (k, v) :: rest => if k = key then some v else find? key rest

/-- Inserting adds no other key than the one inserted. -/
theorem mem_keys_insertEntry {key other : κ} {value : α} {entries : List (κ × α)} :
    other ∈ (insertEntry key value entries).map Prod.fst ↔
      other = key ∨ other ∈ entries.map Prod.fst := by
  induction entries with
  | nil => simp [insertEntry]
  | cons entry rest inductionHypothesis =>
    obtain ⟨k, v⟩ := entry
    by_cases same : k = key
    · subst same
      simp [insertEntry]
    · simp only [insertEntry, same, if_false, List.map_cons, List.mem_cons, inductionHypothesis]
      grind

/-- Inserting keeps the keys distinct. -/
theorem nodup_insertEntry {key : κ} {value : α} {entries : List (κ × α)}
    (distinct : (entries.map Prod.fst).Nodup) :
    ((insertEntry key value entries).map Prod.fst).Nodup := by
  induction entries with
  | nil => simp [insertEntry]
  | cons entry rest inductionHypothesis =>
    obtain ⟨k, v⟩ := entry
    rw [List.map_cons, List.nodup_cons] at distinct
    by_cases same : k = key
    · simpa only [insertEntry, same, if_true, List.map_cons, List.nodup_cons] using
        (same ▸ distinct)
    · simp only [insertEntry, same, if_false, List.map_cons, List.nodup_cons]
      refine ⟨?_, inductionHypothesis distinct.2⟩
      rw [mem_keys_insertEntry]
      rintro (equal | member)
      · exact same equal
      · exact distinct.1 member

/-- The map without entries. -/
def empty : OrderedMap κ α := ⟨[], List.nodup_nil⟩

instance : EmptyCollection (OrderedMap κ α) := ⟨empty⟩

instance : Inhabited (OrderedMap κ α) := ⟨empty⟩

/-- The value under a key, if the key is present. -/
def get? (map : OrderedMap κ α) (key : κ) : Option α := find? key map.entries

/-- Whether a key is present. -/
def contains (map : OrderedMap κ α) (key : κ) : Bool := (map.get? key).isSome

/-- The map with a value under a key: in the key's place if it had one, else last. -/
def insert (map : OrderedMap κ α) (key : κ) (value : α) : OrderedMap κ α :=
  ⟨insertEntry key value map.entries, nodup_insertEntry map.distinct⟩

/-- The map without a key. -/
def erase (map : OrderedMap κ α) (key : κ) : OrderedMap κ α :=
  ⟨map.entries.filter fun entry => entry.1 ≠ key,
    (List.filter_sublist.map Prod.fst).nodup map.distinct⟩

/-- The map made by inserting entries in order. -/
def ofList (entries : List (κ × α)) : OrderedMap κ α :=
  entries.foldl (fun map entry => map.insert entry.1 entry.2) empty

/-- The keys in order. -/
def keys (map : OrderedMap κ α) : List κ := map.entries.map Prod.fst

/-- The number of entries. -/
def size (map : OrderedMap κ α) : Nat := map.entries.length

/-- Reading a key after an insertion sees the inserted value and no other change. -/
theorem get?_insert (map : OrderedMap κ α) (key other : κ) (value : α) :
    (map.insert key value).get? other = if other = key then some value else map.get? other := by
  obtain ⟨entries, distinct⟩ := map
  simp only [get?, insert]
  clear distinct
  induction entries with
  | nil => simp [insertEntry, find?, eq_comm]
  | cons entry rest inductionHypothesis =>
    obtain ⟨k, v⟩ := entry
    by_cases same : k = key
    · subst same
      by_cases here : k = other
      · simp [insertEntry, find?, here]
      · simp [insertEntry, find?, here, Ne.symm here]
    · by_cases here : k = other
      · subst here
        simp [insertEntry, find?, same]
      · simp [insertEntry, find?, same, here, inductionHypothesis]

/-- A key that is not listed has no value. -/
theorem find?_eq_none {key : κ} {entries : List (κ × α)}
    (absent : key ∉ entries.map Prod.fst) : find? key entries = none := by
  induction entries with
  | nil => rfl
  | cons entry rest inductionHypothesis =>
    obtain ⟨k, v⟩ := entry
    simp only [List.map_cons, List.mem_cons, not_or] at absent
    simp [find?, Ne.symm absent.1, inductionHypothesis absent.2]

/-- A key has the value that is listed with it. -/
theorem get?_of_mem {map : OrderedMap κ α} {key : κ} {value : α}
    (listed : (key, value) ∈ map.entries) : map.get? key = some value := by
  obtain ⟨entries, distinct⟩ := map
  rw [get?]
  induction entries with
  | nil => cases listed
  | cons entry rest inductionHypothesis =>
    obtain ⟨k, v⟩ := entry
    rw [List.map_cons, List.nodup_cons] at distinct
    rcases List.mem_cons.1 listed with equal | later
    · cases equal
      simp [find?]
    · have different : k ≠ key := by
        rintro rfl
        exact distinct.1 (List.mem_map.2 ⟨(k, value), later, rfl⟩)
      rw [find?, if_neg different]
      exact inductionHypothesis distinct.2 later

/-- After inserting entries with distinct keys, a key has the value listed for it, and
without one the value it had. -/
theorem get?_foldl_insert {entries : List (κ × α)} (distinct : (entries.map Prod.fst).Nodup)
    (start : OrderedMap κ α) (key : κ) :
    (entries.foldl (fun map entry => map.insert entry.1 entry.2) start).get? key =
      (find? key entries).or (start.get? key) := by
  induction entries generalizing start with
  | nil => rfl
  | cons entry rest inductionHypothesis =>
    obtain ⟨k, v⟩ := entry
    rw [List.map_cons, List.nodup_cons] at distinct
    rw [List.foldl_cons, inductionHypothesis distinct.2, get?_insert]
    by_cases same : k = key
    · subst same
      simp [find?, find?_eq_none distinct.1]
    · simp [find?, same, Ne.symm same]

end OrderedMap

end RowPayload
