import RowPayload.Proofs.Engine.Cell
import RowPayload.Proofs.Engine.Inside

/-!
# Working copies

A transaction may also be kept by hand: all tables are copied when it begins, statements
and payload handles change the copies in place, and whatever changes a table has to note
that it did, so that committing publishes it. Here this is written out, with a note in every
place that needs one, and proved to come to the same as keeping the changed tables apart.
In particular no statement changes a table without a note, and none makes a note without
need.
-/

namespace RowPayload

/-- Inserting the value that a key has changes nothing. -/
theorem OrderedMap.insert_self {κ α : Type} [DecidableEq κ] {map : OrderedMap κ α} {key : κ}
    {value : α} (found : map.get? key = some value) : map.insert key value = map := by
  obtain ⟨entries, distinct⟩ := map
  apply OrderedMap.ext
  show insertEntry key value entries = entries
  have listed : find? key entries = some value := found
  clear distinct found
  induction entries with
  | nil => cases listed
  | cons entry rest inductionHypothesis =>
    obtain ⟨k, v⟩ := entry
    by_cases same : k = key
    · simp only [find?, same, if_true, Option.some.injEq] at listed
      simp [insertEntry, same, listed]
    · simp only [find?, same, if_false] at listed
      simp [insertEntry, same, inductionHypothesis listed]

namespace Engine

open Sql (Operand Condition Statement)

/-- Copies of all tables, changed in place, and the names of those to publish. -/
structure WorkingCopy where
  tables : Catalog
  touched : List String

namespace WorkingCopy

/-- Fresh copies. -/
def ofCatalog (catalog : Catalog) : WorkingCopy := ⟨catalog, []⟩

/-- Put a table in place of the one filed under a name. -/
def put (copy : WorkingCopy) (file : String) (table : Table) : WorkingCopy :=
  { copy with tables := copy.tables.insert file table }

/-- Note that a table was changed. -/
def touch (copy : WorkingCopy) (file : String) : WorkingCopy :=
  if file ∈ copy.touched then copy else { copy with touched := file :: copy.touched }

/-- A note changes no table. -/
@[simp] theorem tables_touch (copy : WorkingCopy) (file : String) :
    (copy.touch file).tables = copy.tables := by
  unfold touch
  split <;> rfl

/-- A note is there after it was made, and the others are those made before. -/
@[simp] theorem mem_touch (copy : WorkingCopy) (file name : String) :
    name ∈ (copy.touch file).touched ↔ name = file ∨ name ∈ copy.touched := by
  unfold touch
  split
  · rename_i noted
    constructor
    · exact .inr
    · rintro (rfl | member)
      · exact noted
      · exact member
  · exact List.mem_cons

/-- What a statement on the copies reads and binds. -/
def scene (copy : WorkingCopy) (parameters : List Parameter) (token : Option Bytes) : Scene :=
  ⟨copy.tables.get?, parameters, token⟩

section

variable (copy : WorkingCopy) (parameters : List Parameter) (token : Option Bytes)

/-- Insert a row into a table in place. -/
def insert (name : String) (columns : List String) (operands : List Operand) :
    Except Failure WorkingCopy := do
  let table ← (copy.scene parameters token).table name
  if columns.length ≠ operands.length then throw (.columnCount name)
  let cells ← (copy.scene parameters token).resolve table (columns.zip operands)
  let blank : TableRow := ⟨table.nextRowId, List.replicate table.columns.length .null⟩
  let grown ← table.insert (blank.assign cells).values
  return (copy.put (fileName name) grown).touch (fileName name)

/-- Assign to the rows of a table in place. The table is changed if there are any. -/
def update (name : String) (assignments : List (String × Operand)) (filter : Option Condition) :
    Except Failure WorkingCopy := do
  let table ← (copy.scene parameters token).table name
  let cells ← (copy.scene parameters token).resolve table assignments
  let marked ← table.rows.mapM fun row => do
    return (row, ← passes parameters table filter row)
  let assigned := copy.put (fileName name) { table with
    rows := marked.map fun (row, matched) => if matched then row.assign cells else row }
  return if marked.countP Prod.snd = 0 then assigned else assigned.touch (fileName name)

/-- Run a statement in place. -/
def run : Statement → Except Failure WorkingCopy
  | .insert table columns operands => copy.insert parameters token table columns operands
  | .update table assignments filter => copy.update parameters token table assignments filter
  | .select query => do
    let _ ← (copy.scene parameters token).select query
    return copy
  | .conditional negated probe body => do
    let found ← (copy.scene parameters token).select probe
    if found.rows.isEmpty = negated then run body else return copy
  | .branch negated probe body otherwise => do
    let found ← (copy.scene parameters token).select probe
    if found.rows.isEmpty = negated then run body else run otherwise

end

/-- Write the content of a handle to its cell in place, if the cell's row is there. -/
def writeBack (copy : WorkingCopy) (address : CellAddress) (content : Bytes) :
    Option WorkingCopy := do
  let table ← copy.tables.get? address.table
  let row ← table.row? address.row
  return (copy.put address.table (table.setCell row.id address.column (.bytes content))).touch
    address.table

/-- The committed table under a name after the tables noted were published. -/
def publish (copy : WorkingCopy) (committed : Catalog) (name : String) : Option Table :=
  if name ∈ copy.touched then copy.tables.get? name else committed.get? name

/-! ## In place and apart -/

/-- Take in the table a statement has written. -/
def take (copy : WorkingCopy) : Option (String × Table) → WorkingCopy
  | none => copy
  | some (file, table) => (copy.put file table).touch file

/-- An insertion in place does what one apart has done, taken in. -/
theorem insert_eq (copy : WorkingCopy) (parameters : List Parameter) (token : Option Bytes)
    (name : String) (columns : List String) (operands : List Operand) :
    copy.insert parameters token name columns operands =
      ((copy.scene parameters token).insert name columns operands).map
        fun effect => copy.take effect.written := by
  unfold insert Scene.insert
  cases (copy.scene parameters token).table name with
  | error failure => rfl
  | ok table =>
    by_cases counts : columns.length ≠ operands.length
    · simp [counts, bind, Except.bind, throw, throwThe, MonadExceptOf.throw, Except.map]
    · cases resolved : (copy.scene parameters token).resolve table (columns.zip operands) with
      | error failure => simp [counts, resolved, bind, Except.bind, Except.map]
      | ok cells =>
        simp only [counts, resolved, bind, Except.bind, pure, Except.pure, if_false]
        cases table.insert (TableRow.assign
          ⟨table.nextRowId, List.replicate table.columns.length .null⟩ cells).values <;> rfl

/-- If no row is marked, assigning to the marked rows assigns to none. -/
theorem map_assign_unmarked {marked : List (TableRow × Bool)}
    (unmarked : marked.countP Prod.snd = 0) (cells : List (Nat × Value)) :
    (marked.map fun (row, matched) => if matched then row.assign cells else row) =
      marked.map Prod.fst := by
  apply List.map_congr_left
  rintro ⟨row, matched⟩ member
  have off := List.countP_eq_zero.1 unmarked (row, matched) member
  simp_all

/-- An update in place does what one apart has done, taken in. One that matches no row puts a
table in place of itself. -/
theorem update_eq (copy : WorkingCopy) (parameters : List Parameter) (token : Option Bytes)
    (name : String) (assignments : List (String × Operand)) (filter : Option Condition) :
    copy.update parameters token name assignments filter =
      ((copy.scene parameters token).update name assignments filter).map
        fun effect => copy.take effect.written := by
  unfold update Scene.update
  cases found : (copy.scene parameters token).table name with
  | error failure => rfl
  | ok table =>
    cases resolved : (copy.scene parameters token).resolve table assignments with
    | error failure => simp [resolved, bind, Except.bind, Except.map]
    | ok cells =>
      have bound : (copy.scene parameters token).parameters = parameters := rfl
      simp only [resolved, bind, Except.bind, pure, Except.pure, bound]
      generalize marks :
        (table.rows.mapM _ : Except Failure (List (TableRow × Bool))) = result
      cases result with
      | error failure => rfl
      | ok marked =>
        simp only [Except.map]
        by_cases unmarked : marked.countP Prod.snd = 0
        · have rows : (marked.map fun (row, matched) =>
              if matched then row.assign cells else row) = table.rows := by
            rw [map_assign_unmarked unmarked]
            exact Scene.map_fst_marked marks
          have here : copy.tables.get? (fileName name) = some table :=
            Scene.table?_of_table found
          have same : copy.put (fileName name) { table with rows := table.rows } = copy := by
            unfold put
            rw [OrderedMap.insert_self here]
          simp only [rows, if_pos unmarked, take, same]
        · simp only [if_neg unmarked, take]

/-- **A statement run in place does what it has done apart, taken in.** -/
theorem run_eq (copy : WorkingCopy) (parameters : List Parameter) (token : Option Bytes)
    (statement : Statement) :
    copy.run parameters token statement =
      ((copy.scene parameters token).run statement).map fun effect => copy.take effect.written := by
  induction statement with
  | insert name columns operands => exact copy.insert_eq parameters token name columns operands
  | update name assignments filter => exact copy.update_eq parameters token name assignments filter
  | select query =>
    simp only [run, Scene.run]
    cases (copy.scene parameters token).select query <;> rfl
  | conditional negated probe body inductionHypothesis =>
    simp only [run, Scene.run, inductionHypothesis]
    cases (copy.scene parameters token).select probe with
    | error failure => rfl
    | ok found =>
      simp only [bind, Except.bind]
      split <;> rfl
  | branch negated probe body otherwise bodyHypothesis otherwiseHypothesis =>
    simp only [run, Scene.run, bodyHypothesis, otherwiseHypothesis]
    cases (copy.scene parameters token).select probe with
    | error failure => rfl
    | ok found =>
      simp only [bind, Except.bind]
      split <;> rfl

/-- After a table was taken in, it is there under its name. -/
theorem get?_take (copy : WorkingCopy) (file : String) (table : Table) (name : String) :
    (copy.take (some (file, table))).tables.get? name =
      if name = file then some table else copy.tables.get? name := by
  have put : (copy.take (some (file, table))).tables = copy.tables.insert file table :=
    tables_touch (copy.put file table) file
  rw [put, OrderedMap.get?_insert]

/-- After a table was taken in, it is noted. -/
theorem mem_take (copy : WorkingCopy) (file : String) (table : Table) (name : String) :
    name ∈ (copy.take (some (file, table))).touched ↔ name = file ∨ name ∈ copy.touched :=
  mem_touch (copy.put file table) file name

/-- Publishing one table that was taken in files it. -/
theorem publish_take (committed : Catalog) (file : String) (table : Table) (name : String) :
    ((ofCatalog committed).take (some (file, table))).publish committed name =
      (committed.insert file table).get? name := by
  unfold publish
  rw [OrderedMap.get?_insert, get?_take]
  have noted := mem_take (ofCatalog committed) file table name
  by_cases here : name = file
  · rw [if_pos (noted.2 (.inl here)), if_pos here, if_pos here]
  · have unnoted : name ∉ ((ofCatalog committed).take (some (file, table))).touched := by
      rw [noted]
      rintro (same | before)
      · exact here same
      · cases before
    rw [if_neg unnoted, if_neg here]

/-! ## Transactions -/

/-- Working copies come to the same as a transaction that keeps the changed tables apart. -/
structure Mirrors (copy : WorkingCopy) (transaction : Transaction) : Prop where
  /-- The copies are what the transaction sees. -/
  tables : ∀ name, copy.tables.get? name = transaction.table? name
  /-- The tables noted are those the transaction has changed. -/
  touched : ∀ name, name ∈ copy.touched ↔ (transaction.changed.get? name).isSome

namespace Mirrors

variable {copy : WorkingCopy} {transaction : Transaction}

/-- Fresh copies of the tables with which a transaction begins. -/
theorem start (secret : Bytes) (number : Nat) (origin : Catalog) :
    (ofCatalog origin).Mirrors (.start secret number origin) where
  tables := fun _ => rfl
  touched := by
    intro name
    simp [ofCatalog, Transaction.start, OrderedMap.empty, OrderedMap.get?, OrderedMap.find?]

/-- Taking in a table is what writing it is. -/
theorem writeTable (mirrors : copy.Mirrors transaction) (file : String) (table : Table) :
    (copy.take (some (file, table))).Mirrors (transaction.writeTable file table) where
  tables := by
    intro name
    rw [get?_take, Transaction.table?_writeTable, mirrors.tables]
  touched := by
    intro name
    rw [mem_take, mirrors.touched]
    simp only [Transaction.writeTable, OrderedMap.get?_insert]
    split <;> simp_all

/-- A statement sees in the copies what it sees in the transaction. -/
theorem scene_eq (mirrors : copy.Mirrors transaction) (parameters : List Parameter)
    (token : Option Bytes) :
    copy.scene parameters token = ⟨transaction.table?, parameters, token⟩ := by
  have tables : copy.tables.get? = transaction.table? := funext mirrors.tables
  rw [scene, tables]

/-- Writing a handle back in place is writing its cell, and takes place if that does. -/
theorem writeBack (mirrors : copy.Mirrors transaction) (address : CellAddress) (content : Bytes) :
    (copy.writeBack address content = none ∧
      transaction.writeCell? address (.bytes content) = none) ∨
    ∃ later changed, copy.writeBack address content = some later ∧
      transaction.writeCell? address (.bytes content) = some changed ∧ later.Mirrors changed ∧
      changed.identity = transaction.identity := by
  simp only [WorkingCopy.writeBack, Transaction.writeCell?, mirrors.tables]
  cases transaction.table? address.table with
  | none => exact .inl ⟨rfl, rfl⟩
  | some table =>
    cases found : table.row? address.row with
    | none => simp [found]
    | some row =>
      right
      have written := mirrors.writeTable address.table
        (table.setCell row.id address.column (.bytes content))
      exact ⟨_, _, by simp only [Option.bind_eq_bind, Option.bind_some, found]; rfl,
        by simp only [Option.bind_eq_bind, Option.bind_some, found]; rfl, written, rfl⟩

/-- Publishing the tables noted is publishing those the transaction has changed. -/
theorem publish (mirrors : copy.Mirrors transaction) (committed : Catalog) (name : String) :
    copy.publish committed name = (transaction.changed.get? name).or (committed.get? name) := by
  unfold WorkingCopy.publish
  have noted := mirrors.touched name
  rw [mirrors.tables, Transaction.table?]
  cases changed : transaction.changed.get? name with
  | none =>
    rw [changed] at noted
    rw [if_neg (by simp [noted])]
    rfl
  | some table =>
    rw [changed] at noted
    rw [if_pos (noted.2 rfl)]
    rfl

/-- **A table without a note is the table with which the transaction began.** -/
theorem untouched (mirrors : copy.Mirrors transaction) {name : String}
    (unnoted : name ∉ copy.touched) :
    copy.tables.get? name = transaction.origin.get? name := by
  have unchanged : transaction.changed.get? name = none := by
    rw [mirrors.touched, Bool.not_eq_true, Option.isSome_eq_false_iff, Option.isNone_iff_eq_none]
      at unnoted
    exact unnoted
  rw [mirrors.tables, Transaction.table?, unchanged]
  rfl

end Mirrors

end WorkingCopy

/-- Copies kept for a transaction: the tables it began with, overlaid with those it changed. -/
def Transaction.copies (transaction : Transaction) : WorkingCopy where
  tables := transaction.changed.entries.foldl (fun tables entry => tables.insert entry.1 entry.2)
    transaction.origin
  touched := transaction.changed.keys

/-- The copies come to the same as the transaction. -/
theorem Transaction.copies_mirrors (transaction : Transaction) :
    transaction.copies.Mirrors transaction where
  tables := OrderedMap.get?_foldl_insert transaction.changed.distinct transaction.origin
  touched := by
    intro name
    constructor
    · intro listed
      obtain ⟨⟨key, table⟩, member, rfl⟩ := List.mem_map.1 listed
      rw [OrderedMap.get?_of_mem member]
      rfl
    · intro changed
      by_cases listed : name ∈ transaction.changed.keys
      · exact listed
      · rw [OrderedMap.get?, OrderedMap.find?_eq_none listed] at changed
        cases changed

end Engine

end RowPayload
