import RowPayload.Proofs.Engine.SoundTable
import RowPayload.Proofs.Predicate.Meaning

/-!
# What a selection has found

A selection that succeeds has tried its filter on every row of its table, and shows the rows
that pass in the order in which they were inserted. So its first row is the first one that
passes, and it shows none exactly if none passes. Whether a row passes does not depend on
parameters that are bound after those of the filter, nor on the other rows of the table.
-/

namespace RowPayload.Engine

open Sql (Operand Condition Select SelectItem)

/-! ## Rows that pass -/

/-- Whether a row passes a filter; one that the filter cannot be tried on does not. -/
def picks (parameters : List Parameter) (table : Table) (filter : Option Condition)
    (row : TableRow) : Bool :=
  (passes parameters table filter row).toOption.getD false

/-- Where a filter could be tried, whether the row passes is what it answered. -/
theorem picks_of_passes {parameters : List Parameter} {table : Table} {filter : Option Condition}
    {row : TableRow} {passed : Bool} (tried : passes parameters table filter row = .ok passed) :
    picks parameters table filter row = passed := by
  rw [picks, tried]
  rfl

/-- A condition that is evaluated with the values of some operands is evaluated alike where at
least these have the same values. -/
theorem holds_mono {value other : Operand → Except Failure Value}
    (agree : ∀ operand found, value operand = .ok found → other operand = .ok found)
    {condition : Condition} {held : Bool} (evaluated : holds value condition = .ok held) :
    holds other condition = .ok held := by
  induction condition generalizing held with
  | equal left right =>
    rw [holds] at evaluated ⊢
    obtain ⟨leftValue, leftIs, evaluated⟩ := Checked.bind_ok evaluated
    obtain ⟨rightValue, rightIs, evaluated⟩ := Checked.bind_ok evaluated
    rw [agree left leftValue leftIs, agree right rightValue rightIs]
    exact evaluated
  | both left right leftHypothesis rightHypothesis =>
    rw [holds] at evaluated ⊢
    obtain ⟨leftHolds, leftIs, evaluated⟩ := Checked.bind_ok evaluated
    rw [leftHypothesis leftIs]
    cases leftHolds with
    | false => exact evaluated
    | true => exact rightHypothesis evaluated
  | either left right leftHypothesis rightHypothesis =>
    rw [holds] at evaluated ⊢
    obtain ⟨leftHolds, leftIs, evaluated⟩ := Checked.bind_ok evaluated
    rw [leftHypothesis leftIs]
    cases leftHolds with
    | true => exact evaluated
    | false => exact rightHypothesis evaluated

/-- A filter that could be tried answers the same when further values are bound. -/
theorem passes_mono {fewer more : List Parameter} (goesOn : boundValues fewer <+: boundValues more)
    {table : Table} {filter : Option Condition} {row : TableRow} {passed : Bool}
    (tried : passes fewer table filter row = .ok passed) :
    passes more table filter row = .ok passed := by
  cases filter with
  | none => exact tried
  | some condition =>
    refine holds_mono ?_ tried
    intro operand found evaluated
    cases operand with
    | parameter ordinal =>
      simp only [operandValue, parameterValue] at evaluated
      split at evaluated
      · rename_i parameter bound
        cases evaluated
        apply parameterValue_of_boundValues
        obtain ⟨others, equal⟩ := goesOn
        have known : (boundValues fewer)[ordinal]? = some parameter.value := by
          rw [boundValues, List.getElem?_map, bound, Option.map_some]
        obtain ⟨inside, -⟩ := List.getElem?_eq_some_iff.1 known
        rw [← equal, List.getElem?_append_left inside, known]
      · cases evaluated
    | column name => exact evaluated
    | binary bytes => exact evaluated
    | integer number => exact evaluated
    | text content => exact evaluated
    | null => exact evaluated

/-- Whether a row passes depends on the values that are bound alone. -/
theorem picks_congr {parameters others : List Parameter}
    (same : boundValues parameters = boundValues others) (table : Table)
    (filter : Option Condition) :
    picks parameters table filter = picks others table filter := by
  funext row
  have forth : boundValues parameters <+: boundValues others := same ▸ List.prefix_rfl
  have back : boundValues others <+: boundValues parameters := same ▸ List.prefix_rfl
  cases tried : passes parameters table filter row with
  | ok passed => rw [picks_of_passes tried, picks_of_passes (passes_mono forth tried)]
  | error failure =>
    cases again : passes others table filter row with
    | ok passed =>
      rw [passes_mono back again] at tried
      cases tried
    | error other => rw [picks, picks, tried, again]; rfl

/-! ## Selections -/

namespace Scene

variable {scene : Scene} {table : Table} {query : Select}

/-- The rows of a selection are those that pass its filter, each shown by its items, and the
filter could be tried on every row. -/
theorem selectRows_ok {rows : List TableRow} {shown : List (List Value)}
    (selected : scene.selectRows table query rows = .ok shown) :
    (∀ row ∈ rows, ∃ passed, passes scene.parameters table query.filter row = .ok passed) ∧
      List.Forall₂ (fun row values => query.items.mapM (scene.project table row) = .ok values)
        (rows.filter (picks scene.parameters table query.filter)) shown := by
  induction rows generalizing shown with
  | nil =>
    cases selected
    exact ⟨nofun, .nil⟩
  | cons row rest inductionHypothesis =>
    rw [selectRows] at selected
    obtain ⟨passed, tried, selected⟩ := Checked.bind_ok selected
    have picked := picks_of_passes tried
    have all {others : List (List Value)}
        (following : scene.selectRows table query rest = .ok others) :
        ∀ one ∈ row :: rest, ∃ passed,
          passes scene.parameters table query.filter one = .ok passed := by
      intro one member
      rcases List.mem_cons.1 member with rfl | later
      · exact ⟨passed, tried⟩
      · exact (inductionHypothesis following).1 one later
    rw [List.filter_cons, picked]
    cases passed with
    | false => exact ⟨all selected, (inductionHypothesis selected).2⟩
    | true =>
      obtain ⟨values, projected, selected⟩ := Checked.bind_ok selected
      obtain ⟨others, following, selected⟩ := Checked.bind_ok selected
      cases selected
      exact ⟨all following, .cons projected (inductionHypothesis following).2⟩

/-- What a selection that succeeded has found. -/
theorem select_ok {result : ResultSet} (selected : scene.select query = .ok result) :
    ∃ table, scene.table query.table = .ok table ∧
      (∀ row ∈ table.rows, ∃ passed,
        passes scene.parameters table query.filter row = .ok passed) ∧
      List.Forall₂ (fun row values => query.items.mapM (scene.project table row) = .ok values)
        (table.rows.filter (picks scene.parameters table query.filter)) result.rows := by
  unfold select at selected
  obtain ⟨table, found, selected⟩ := Checked.bind_ok selected
  obtain ⟨columns, -, selected⟩ := Checked.bind_ok selected
  obtain ⟨shown, rows, selected⟩ := Checked.bind_ok selected
  cases selected
  obtain ⟨tried, matched⟩ := selectRows_ok rows
  exact ⟨table, found, tried, matched⟩

/-- The first row that a selection shows is the first one that passes. -/
theorem select_first {result : ResultSet} {first : ResultRow}
    (selected : scene.select query = .ok result) (starts : result.first? = some first) :
    ∃ table row, scene.table query.table = .ok table ∧
      (∀ row ∈ table.rows, ∃ passed,
        passes scene.parameters table query.filter row = .ok passed) ∧
      table.rows.find? (picks scene.parameters table query.filter) = some row ∧
      query.items.mapM (scene.project table row) = .ok first.values := by
  obtain ⟨table, found, tried, matched⟩ := select_ok selected
  rw [ResultSet.first?, ResultSet.toRows, List.head?_map, Option.map_eq_some_iff] at starts
  obtain ⟨values, head, rfl⟩ := starts
  cases picked : table.rows.filter (picks scene.parameters table query.filter) with
  | nil =>
    rw [picked] at matched
    cases shown : result.rows with
    | nil => simp [shown] at head
    | cons _ _ => simp [shown] at matched
  | cons row others =>
    rw [picked] at matched
    cases shown : result.rows with
    | nil => simp [shown] at matched
    | cons own _ =>
      rw [shown] at matched head
      cases head
      rw [List.forall₂_cons] at matched
      refine ⟨table, row, found, tried, ?_, matched.1⟩
      rw [← List.head?_filter, picked]
      rfl

/-- A selection shows its items under the names that its table has for them. -/
theorem select_columns {result : ResultSet} (selected : scene.select query = .ok result)
    (found : scene.table query.table = .ok table) :
    query.items.mapM (itemName table) = .ok result.columns := by
  unfold select at selected
  obtain ⟨own, known, selected⟩ := Checked.bind_ok selected
  obtain ⟨columns, named, selected⟩ := Checked.bind_ok selected
  obtain ⟨rows, -, selected⟩ := Checked.bind_ok selected
  cases selected
  rw [Except.ok.inj (found.symm.trans known)]
  exact named

/-- A path locator that is shown is that of its row, and is asked for in a column of the table
that holds payloads. -/
theorem pathName_text {table : Table} {row : TableRow} {column path : String}
    (shown : pathName table row column = .ok (.text path)) :
    path = Locator.write table.name row.id ∧ ∃ place, table.columnIndex column = .ok place ∧
      (table.columns[place]?.map TableColumn.isPayload).getD false = true := by
  unfold pathName at shown
  obtain ⟨index, placed, shown⟩ := Checked.bind_ok shown
  by_cases payload : (table.columns[index]?.map TableColumn.isPayload).getD false = true
  · simp only [payload, if_true] at shown
    by_cases null : (row.cell index).isNull = true
    · rw [if_pos null] at shown
      cases shown
    · rw [if_neg null] at shown
      cases shown
      exact ⟨rfl, index, placed, payload⟩
  · simp only [payload] at shown
    cases shown

/-- A selection that shows nothing has tried its filter on every row, and none passes. -/
theorem select_none {result : ResultSet} (selected : scene.select query = .ok result)
    (nothing : result.rows = []) :
    ∃ table, scene.table query.table = .ok table ∧
      ∀ row ∈ table.rows, passes scene.parameters table query.filter row = .ok false := by
  obtain ⟨table, found, tried, matched⟩ := select_ok selected
  rw [nothing, List.forall₂_nil_right_iff, List.filter_eq_nil_iff] at matched
  refine ⟨table, found, fun row member => ?_⟩
  obtain ⟨passed, answered⟩ := tried row member
  have picked := picks_of_passes answered
  cases passed with
  | false => exact answered
  | true => exact absurd picked (matched row member)

end Scene

end RowPayload.Engine
