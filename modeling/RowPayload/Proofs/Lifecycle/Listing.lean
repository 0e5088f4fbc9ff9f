import RowPayload.Proofs.Lifecycle.Effect
import RowPayload.Proofs.Lifecycle.Insertion

/-!
# The values of a new row in their columns

An insertion has the values of a row in the columns that their properties are mapped to. Where the
columns are written as names, each value stands at the place of the column of that name, the last
one counting, and every other column holds null.
-/

namespace RowPayload

open Engine Sql

variable {ε : Type} {descriptor : Descriptor}

/-- The place of the column of a table that a property is stored in. -/
def Descriptor.place? (descriptor : Descriptor) (table : Table) (property : String) :
    Option Nat := do
  let column ← descriptor.columns.get? property
  let name ← columnName? column
  (table.columnIndex name).toOption

/-- Tables with the same columns store a property in the same place. -/
theorem Descriptor.place?_of_columns {table other : Table} (same : table.columns = other.columns)
    (property : String) : descriptor.place? table property = descriptor.place? other property := by
  have places (name : String) : (table.columnIndex name).toOption =
      (other.columnIndex name).toOption := by
    rw [Table.columnIndex, Table.columnIndex, same]
    split <;> rfl
  simp only [place?, places]

/-- The place of the column of a table that a property is stored in, or one past them all. -/
def Descriptor.placeIn (descriptor : Descriptor) (table : Table) (property : String) : Nat :=
  (descriptor.place? table property).getD table.columns.length

/-- A property is stored in the column that its text names. -/
theorem Descriptor.placeIn_eq {table : Table} {property name : String} {place : Nat}
    (named : (descriptor.columns.get? property).bind columnName? = some name)
    (placed : table.columnIndex name = .ok place) : descriptor.placeIn table property = place := by
  obtain ⟨column, mapped, read⟩ := Option.bind_eq_some_iff.1 named
  simp only [placeIn, place?, mapped, read, placed, Option.bind_eq_bind, Option.bind_some]
  rfl

namespace Lifecycle

/-- The values that are bound for a row are those it lists, each with the column of its property. -/
theorem boundColumns_listed {sources : List (String × ValueSource ε)}
    {entries : List (String × Value)} {surroundings after : ε}
    (bound : (boundColumns descriptor sources).perform surroundings = (.ok entries, after)) :
    List.Forall₂ (fun value entry => descriptor.columns.get? value.1 = some entry.1 ∧
      value.2 = entry.2) ((listed descriptor sources).run surroundings).1 entries := by
  induction sources generalizing entries surroundings with
  | nil =>
    cases bound
    exact .nil
  | cons source rest inductionHypothesis =>
    obtain ⟨property, value⟩ := source
    rw [boundColumns] at bound
    rw [listed]
    split at bound
    · rename_i payload
      rw [if_pos payload]
      exact inductionHypothesis bound
    · rename_i other
      rw [if_neg other]
      obtain ⟨column, _, mapped, bound⟩ := Work.perform_bind_ok bound
      obtain ⟨found, rfl⟩ := Prod.mk.inj mapped
      obtain ⟨produced, _, produces, bound⟩ := Work.perform_bind_ok bound
      rw [ValueSource.perform_produce] at produces
      cases produces
      obtain ⟨others, _, boundRest, bound⟩ := Work.perform_bind_ok bound
      cases bound
      exact .cons ⟨Descriptor.get?_of_column found, rfl⟩ (inductionHypothesis boundRest)

/-- Columns are named after the properties of values, in order. -/
abbrev Named (descriptor : Descriptor) (values : List (String × Value)) (names : List String) :
    Prop :=
  List.Forall₂ (fun value name => (descriptor.columns.get? value.1).bind columnName? = some name)
    values names

/-- The names of the columns of bound values are those of the values that are listed. -/
theorem named_of_entries {values entries : List (String × Value)} {names : List String}
    (columns : List.Forall₂ (fun value entry => descriptor.columns.get? value.1 = some entry.1 ∧
      value.2 = entry.2) values entries)
    (named : entries.map (fun entry => columnName? entry.1) = names.map some) :
    Named descriptor values names ∧ entries.map Prod.snd = values.map Prod.snd := by
  induction columns generalizing names with
  | nil =>
    obtain rfl : names = [] := by simpa using named.symm
    exact ⟨.nil, rfl⟩
  | cons first _ inductionHypothesis =>
    cases names with
    | nil => cases named
    | cons name names =>
      rw [List.map_cons, List.map_cons, List.cons.injEq] at named
      obtain ⟨others, same⟩ := inductionHypothesis named.2
      refine ⟨.cons ?_ others, ?_⟩
      · rw [first.1, Option.bind_some, named.1]
      · rw [List.map_cons, List.map_cons, same, first.2]

/-- The columns and operands of an insertion that are resolved stand for the places of the
properties and their values, if the parameters bind the values from an ordinal on. -/
theorem resolve_named {scene : Scene} {table : Table} {values : List (String × Value)}
    {names : List String} (named : Named descriptor values names) {payload : String}
    {before : List Value} (binds : before ++ values.map Prod.snd <+: boundValues scene.parameters)
    {cells : List (Nat × Value)}
    (resolved : scene.resolve table ((names ++ [payload]).zip
      ((List.range' before.length names.length).map .parameter ++ [.binary []])) = .ok cells) :
    ∃ place, table.columnIndex payload = .ok place ∧
      cells = (values.map fun entry => (descriptor.placeIn table entry.1, entry.2)) ++
        [(place, .bytes [])] := by
  induction named generalizing before cells with
  | nil =>
    have last : scene.resolve table [(payload, .binary [])] = .ok cells := resolved
    rw [Scene.resolve] at last
    obtain ⟨place, placed, last⟩ := Checked.bind_ok last
    cases last
    exact ⟨place, placed, rfl⟩
  | @cons value name rest names first _ inductionHypothesis =>
    have shape : (name :: names ++ [payload]).zip
        ((List.range' before.length (name :: names).length).map Operand.parameter ++
          [Operand.binary []]) =
        (name, Operand.parameter before.length) :: ((names ++ [payload]).zip
          ((List.range' (before.length + 1) names.length).map Operand.parameter ++
            [Operand.binary []])) := rfl
    rw [shape, Scene.resolve] at resolved
    obtain ⟨place, placed, resolved⟩ := Checked.bind_ok resolved
    obtain ⟨own, evaluated, resolved⟩ := Checked.bind_ok resolved
    obtain ⟨others, following, resolved⟩ := Checked.bind_ok resolved
    cases resolved
    have bound : parameterValue scene.parameters before.length = .ok value.2 := by
      apply parameterValue_of_boundValues
      obtain ⟨more, equal⟩ := binds
      rw [← equal]
      simp
    obtain rfl : value.2 = own := Except.ok.inj (bound.symm.trans evaluated)
    have bindsRest : before ++ [value.2] ++ rest.map Prod.snd <+:
        boundValues scene.parameters := by
      simpa using binds
    rw [← List.length_singleton (a := value.2), ← List.length_append] at following
    obtain ⟨last, lastPlaced, rfl⟩ := inductionHypothesis bindsRest following
    exact ⟨last, lastPlaced, by rw [← Descriptor.placeIn_eq first placed]; rfl⟩

namespace Naming

/-- The payload property is stored in the payload column. -/
theorem placeIn_payload (naming : Naming descriptor) {table : Table} {place : Nat}
    (placed : table.columnIndex naming.payload = .ok place) :
    descriptor.placeIn table descriptor.payload = place := by
  refine Descriptor.placeIn_eq ?_ placed
  rw [descriptor.payload_mapped, Option.bind_some,
    columnName?_of_name naming.payload_read naming.payload_spelled]
  rfl

/-- **An insertion that ran has added a row** with the values of their properties, and with an empty
payload. -/
theorem insertion_run_ok (naming : Naming descriptor) {scene : Scene} {effect : Effect}
    {values : List (String × Value)} {names : List String}
    (named : Named descriptor values names) {before : List Value}
    (binds : before ++ values.map Prod.snd <+: boundValues scene.parameters)
    (ran : scene.run (naming.insertion names before.length) = .ok effect) :
    ∃ table, scene.table naming.table = .ok table ∧
      effect = ⟨some (fileName naming.table, table.append (table.rowOf
        (newCell descriptor (descriptor.placeIn table) values)).values), 1, 0, .affected 1⟩ := by
  have inserted : scene.insert naming.table (names ++ [naming.payload])
      ((List.range' before.length names.length).map .parameter ++ [.binary []]) = .ok effect := ran
  obtain ⟨table, cells, grown, found, resolved, grows, rfl⟩ := Scene.insert_ok inserted
  obtain ⟨place, placed, rfl⟩ := resolve_named named binds resolved
  obtain rfl := naming.placeIn_payload placed
  have row : table.blankRow.assign ((values.map fun entry =>
      (descriptor.placeIn table entry.1, entry.2)) ++
        [(descriptor.placeIn table descriptor.payload, .bytes [])]) =
      table.rowOf (newCell descriptor (descriptor.placeIn table) values) := by
    rw [Table.assign_blankRow]
    congr 1
    funext column
    exact lastValue?_listed values column
  refine ⟨table, found, ?_⟩
  rw [Table.append_of_insert grows, ← row]
  rfl

end Naming

end Lifecycle

end RowPayload
