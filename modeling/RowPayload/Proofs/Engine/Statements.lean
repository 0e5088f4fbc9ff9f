import RowPayload.Proofs.Engine.Cell

/-!
# What statements do to a table

The statements that prepare a row for its payload, one equation each. They are given by
what they do to the rows: which rows match is a function on rows that the condition
evaluates to, a new row is given by the value of each column, and emptying a column changes
one cell of every row that matches.
-/

namespace RowPayload.Engine

open Sql (Operand Condition Statement)

/-! ## New rows -/

/-- The value that assignments give a column. The last one counts. -/
def lastValue? (cells : List (Nat × Value)) (column : Nat) : Option Value :=
  (cells.reverse.find? fun cell => cell.1 == column).map Prod.snd

/-- A cell holds the last value it was assigned, or what it held. -/
theorem TableRow.cell_assign_last {row : TableRow} {column : Nat}
    (inside : column < row.values.length) (cells : List (Nat × Value)) :
    (row.assign cells).cell column = (lastValue? cells column).getD (row.cell column) := by
  induction cells generalizing row with
  | nil => rfl
  | cons first rest inductionHypothesis =>
    obtain ⟨place, value⟩ := first
    have step : row.assign ((place, value) :: rest) =
        (row.assign [(place, value)]).assign rest := rfl
    have held : (row.assign [(place, value)]).cell column =
        if column = place then value else row.cell column := by
      by_cases here : column = place
      · subst here
        exact cell_assign inside value column
      · simp [cell, assign, List.getD_eq_getElem?_getD, here, Ne.symm here]
    rw [step, inductionHypothesis (by simpa using inside), held]
    simp only [lastValue?, List.reverse_cons, List.find?_append]
    cases rest.reverse.find? fun cell => cell.1 == column with
    | some cell => rfl
    | none =>
      by_cases here : column = place
      · simp [here]
      · simp [here, Ne.symm here]

namespace Table

/-- The row that would be inserted, given by the value of each column. -/
def rowOf (table : Table) (cell : Nat → Value) : TableRow :=
  ⟨table.nextRowId, (List.range table.columns.length).map cell⟩

/-- A new row has the value of each of its columns. -/
theorem cell_rowOf (table : Table) (cell : Nat → Value) {column : Nat}
    (inside : column < table.columns.length) : (table.rowOf cell).cell column = cell column := by
  simp [rowOf, TableRow.cell, List.getD_eq_getElem?_getD, inside]

/-- The row that has a null in each column. -/
def blankRow (table : Table) : TableRow :=
  ⟨table.nextRowId, List.replicate table.columns.length .null⟩

/-- A blank row with cells assigned is the row given by the last value of each column. -/
theorem assign_blankRow (table : Table) (cells : List (Nat × Value)) :
    table.blankRow.assign cells =
      table.rowOf fun column => (lastValue? cells column).getD .null := by
  have blank (column : Nat) : table.blankRow.cell column = .null := by
    simp only [blankRow, TableRow.cell, List.getD_eq_getElem?_getD, List.getElem?_replicate]
    split <;> rfl
  have values : (table.blankRow.assign cells).values =
      (List.range table.columns.length).map fun column =>
        (lastValue? cells column).getD .null := by
    apply List.ext_getElem
    · simp [blankRow]
    · intro column inside _
      have assigned := TableRow.cell_assign_last (by simpa using inside) cells
      rw [blank, TableRow.cell, List.getD_eq_getElem?_getD, List.getElem?_eq_getElem inside,
        Option.getD_some] at assigned
      rw [assigned, List.getElem_map, List.getElem_range]
  exact congrArg (TableRow.mk table.nextRowId) values

/-! ## Insertions -/

/-- What inserting a row leads to: a row with the next number comes last, or the table stays
as it is because a row has the key already. -/
inductive Created (before : Table) (cell : Nat → Value) : Except Failure Nat → Table → Prop where
  | appended (free : ∀ column, before.key = some column → ∀ row ∈ before.rows,
        (row.cell column).sqlEqual ((before.rowOf cell).cell column) = false)
      (fresh : ∀ row ∈ before.rows, row.id ≠ before.nextRowId) :
      Created before cell (.ok 1) { before with
        rows := before.rows ++ [before.rowOf cell], nextRowId := before.nextRowId + 1 }
  | refused {column : Nat} {row : TableRow} (key : before.key = some column)
      (member : row ∈ before.rows)
      (equal : (row.cell column).sqlEqual ((before.rowOf cell).cell column) = true) :
      Created before cell
        (.error (.duplicateKey before.name ((before.rowOf cell).cell column).toText)) before

/-- Where no key is taken, no row has the key of the values. -/
theorem takenKey?_eq_none {table : Table} {values : List Value}
    (free : table.takenKey? values = none) {column : Nat} (key : table.key = some column)
    {row : TableRow} (member : row ∈ table.rows) :
    (row.cell column).sqlEqual (values.getD column .null) = false := by
  cases equal : (row.cell column).sqlEqual (values.getD column .null) with
  | false => rfl
  | true =>
    have found : (table.rowByKey? (values.getD column .null)).isSome = true := by
      rw [rowByKey?, key, Option.bind_some, List.find?_isSome]
      exact ⟨row, member, equal⟩
    rw [takenKey?, key, Option.bind_some] at free
    dsimp only at free
    rw [if_pos found] at free
    cases free

/-- A key that is taken is that of the values and of a row. -/
theorem takenKey?_eq_some {table : Table} {values : List Value} {taken : Value}
    (found : table.takenKey? values = some taken) :
    ∃ column, table.key = some column ∧ taken = values.getD column .null ∧
      ∃ row ∈ table.rows, (row.cell column).sqlEqual taken = true := by
  simp only [takenKey?, Option.bind_eq_some_iff] at found
  obtain ⟨column, key, found⟩ := found
  split at found
  · rename_i present
    cases found
    rw [rowByKey?, key, Option.bind_some, List.find?_isSome] at present
    exact ⟨column, key, rfl, present⟩
  · cases found

/-- Inserting a row into a sound table appends it, or is refused because of its key. -/
theorem Sound.insert_rowOf {table : Table} (sound : table.Sound) (cell : Nat → Value) :
    (∃ grown, table.insert (table.rowOf cell).values = .ok grown ∧
      table.Created cell (.ok 1) grown) ∨
    ∃ failure, table.insert (table.rowOf cell).values = .error failure ∧
      table.Created cell (.error failure) table := by
  have fresh : ∀ row ∈ table.rows, row.id ≠ table.nextRowId := fun row member =>
    Nat.ne_of_lt (sound.fresh row member)
  unfold Table.insert
  cases taken : table.takenKey? (table.rowOf cell).values with
  | none => exact .inl ⟨_, rfl, .appended (fun _ key _ => takenKey?_eq_none taken key) fresh⟩
  | some key =>
    obtain ⟨column, keyed, rfl, row, member, equal⟩ := takenKey?_eq_some taken
    exact .inr ⟨_, rfl, .refused keyed member equal⟩

/-! ## Emptied payloads -/

/-- A table differs from another in one column of the rows that match, which holds empty
bytes there. -/
structure Emptied (before after : Table) (matching : TableRow → Bool) (column : Nat) : Prop where
  /-- The tables have the same name, key, columns and next row number. -/
  frame : { after with rows := before.rows } = before
  /-- The rows have the same numbers in the same order. -/
  ids : after.rows.map TableRow.id = before.rows.map TableRow.id
  /-- Every row has as many values as before. -/
  lengths : after.rows.map (·.values.length) = before.rows.map (·.values.length)
  /-- Every cell but those of the column in rows that match is the same. -/
  cells : ∀ (place : Nat) (old new : TableRow), before.rows[place]? = some old →
    after.rows[place]? = some new →
    ∀ other, new.cell other = if matching old ∧ other = column then .bytes [] else old.cell other

/-- The table with the payloads of the rows that match emptied. -/
def emptied (table : Table) (matching : TableRow → Bool) (column : Nat) : Table :=
  { table with
    rows := table.rows.map fun row =>
      if matching row then row.assign [(column, .bytes [])] else row }

/-- Emptying payloads changes what it says and nothing else. -/
theorem Sound.emptied {table : Table} (sound : table.Sound) (matching : TableRow → Bool)
    {column : Nat} (inside : column < table.columns.length) :
    table.Emptied (table.emptied matching column) matching column where
  frame := rfl
  ids := TableRow.map_assign_if TableRow.id TableRow.id_assign _ _ _ _
  lengths := TableRow.map_assign_if (·.values.length) TableRow.length_assign _ _ _ _
  cells := by
    intro place old new before after other
    have full : old.values.length = table.columns.length :=
      sound.full old (List.mem_of_getElem? before)
    simp only [Table.emptied, List.getElem?_map, before, Option.map_some,
      Option.some.injEq] at after
    rw [← after]
    by_cases matched : matching old = true
    · rw [if_pos matched, TableRow.cell_assign (by rw [full]; exact inside)]
      simp [matched]
    · simp [matched]

/-- Where no row matches, emptying payloads changes nothing. -/
theorem emptied_of_none {table : Table} {matching : TableRow → Bool} (column : Nat)
    (none : ∀ row ∈ table.rows, matching row = false) : table.emptied matching column = table := by
  have rows : (table.rows.map fun row =>
      if matching row then row.assign [(column, .bytes [])] else row) = table.rows := by
    have same : ∀ row ∈ table.rows,
        (if matching row then row.assign [(column, .bytes [])] else row) = row := by
      intro row member
      rw [none row member]
      rfl
    exact (List.map_congr_left same).trans (List.map_id _)
  rw [Table.emptied, rows]

end Table

/-! ## Statements -/

namespace Scene

variable {scene : Scene} {name : String} {table : Table} {condition : Condition}
variable {matching : TableRow → Bool}

/-- A condition evaluates on every row of a table to whether the row matches. -/
def Tells (scene : Scene) (table : Table) (condition : Condition) (matching : TableRow → Bool) :
    Prop :=
  ∀ row ∈ table.rows, passes scene.parameters table (some condition) row = .ok (matching row)

/-- Selecting shows the rows that pass, each by its items. -/
theorem select_of_tells {query : Sql.Select} {names : List String} {shown : TableRow → List Value}
    (found : scene.table query.table = .ok table)
    (named : query.items.mapM (itemName table) = .ok names)
    (tells : ∀ row ∈ table.rows,
      passes scene.parameters table query.filter row = .ok (matching row))
    (projects : ∀ row ∈ table.rows, matching row = true →
      query.items.mapM (scene.project table row) = .ok (shown row)) :
    scene.select query = .ok ⟨names, (table.rows.filter matching).map shown⟩ := by
  have rows : ∀ rows ⊆ table.rows, scene.selectRows table query rows =
      .ok ((rows.filter matching).map shown) := by
    intro rows inside
    induction rows with
    | nil => rfl
    | cons first rest inductionHypothesis =>
      have following := inductionHypothesis fun row member => inside (by simp [member])
      have member : first ∈ table.rows := inside (by simp)
      rw [selectRows, tells first member]
      cases matched : matching first with
      | false => simpa [bind, Except.bind, matched] using following
      | true =>
        simp only [bind, Except.bind, if_true, projects first member matched, following,
          List.filter_cons, matched]
        rfl
  rw [select, found]
  simp only [bind, Except.bind, named, rows table.rows fun _ member => member]
  rfl

/-- Asking for the rows that match answers one row for each of them. -/
theorem select_one (found : scene.table name = .ok table)
    (tells : scene.Tells table condition matching) :
    scene.select ⟨[.one], name, some condition⟩ =
      .ok ⟨[""], (table.rows.filter matching).map fun _ => [.int 1]⟩ :=
  select_of_tells found rfl tells fun _ _ _ => rfl

/-- Whether a row was found that matches. -/
theorem isEmpty_found (rows : List TableRow) (matching : TableRow → Bool) :
    ((rows.filter matching).map fun _ => [Value.int 1]).isEmpty = !rows.any matching := by
  rw [List.isEmpty_map]
  induction rows with
  | nil => rfl
  | cons first rest inductionHypothesis =>
    rw [List.filter_cons, List.any_cons]
    cases matching first with
    | false => exact inductionHypothesis
    | true => rfl

/-- Emptying a column of the rows that match. -/
theorem update_emptied (found : scene.table name = .ok table)
    (tells : scene.Tells table condition matching) {payload : String} {column : Nat}
    (placed : table.columnIndex payload = .ok column) :
    scene.update name [(payload, .binary [])] (some condition) =
      .ok ⟨if table.rows.countP matching = 0 then none
          else some (fileName name, table.emptied matching column),
        0, table.rows.countP matching, .affected (table.rows.countP matching)⟩ := by
  have resolved : scene.resolve table [(payload, .binary [])] = .ok [(column, .bytes [])] := by
    simp only [resolve, placed, bind, Except.bind]
    rfl
  have marked : (table.rows.mapM fun row => do
      return (row, ← passes scene.parameters table (some condition) row)) =
        Except.ok (table.rows.map fun row => (row, matching row)) := by
    apply Checked.mapM_ok
    intro row member
    rw [tells row member]
    rfl
  rw [update, found]
  simp only [bind, Except.bind] at marked ⊢
  rw [resolved]
  simp only [marked]
  rw [List.countP_map, List.map_map]
  rfl

/-- Inserting a row of constants. -/
theorem insert_rowOf (found : scene.table name = .ok table) {columns : List String}
    {operands : List Operand} {cells : List (Nat × Value)}
    (sized : columns.length = operands.length)
    (resolved : scene.resolve table (columns.zip operands) = .ok cells) :
    scene.insert name columns operands =
      (table.insert (table.rowOf fun column => (lastValue? cells column).getD .null).values).map
        fun grown => ⟨some (fileName name, grown), 1, 0, .affected 1⟩ := by
  rw [← Table.assign_blankRow, Table.blankRow, insert, found]
  simp only [bind, Except.bind, sized, resolved]
  rw [if_neg fun different => different rfl]
  generalize table.insert _ = inserted
  cases inserted <;> rfl

/-- A statement answers and leaves a table in the place of the one filed under a name, as
told, and writes no other table. -/
def LeadsTo (scene : Scene) (statement : Statement) (file : String) (before : Table)
    (told : Except Failure Nat → Table → Prop) : Prop :=
  (∃ effect count after, scene.run statement = .ok effect ∧ effect.outcome = .affected count ∧
    told (.ok count) after ∧
    (effect.written = some (file, after) ∨ effect.written = none ∧ after = before)) ∨
  ∃ failure, scene.run statement = .error failure ∧ told (.error failure) before

/-- A statement that is run as another leads where that does. -/
theorem LeadsTo.of_run_eq {statement other : Statement} {file : String} {before : Table}
    {told : Except Failure Nat → Table → Prop} (leads : scene.LeadsTo other file before told)
    (same : scene.run statement = scene.run other) :
    scene.LeadsTo statement file before told := by
  rwa [LeadsTo, same]

/-- What follows from where a statement leads, it leads to as well. -/
theorem LeadsTo.mono {statement : Statement} {file : String} {before : Table}
    {told weaker : Except Failure Nat → Table → Prop}
    (leads : scene.LeadsTo statement file before told)
    (weaken : ∀ answer after, told answer after → weaker answer after) :
    scene.LeadsTo statement file before weaker := by
  rcases leads with ⟨effect, count, after, ran, outcome, holds, written⟩ | ⟨failure, ran, holds⟩
  · exact .inl ⟨effect, count, after, ran, outcome, weaken _ _ holds, written⟩
  · exact .inr ⟨failure, ran, weaken _ _ holds⟩

/-- A statement that affects no row leads to the table it started from. -/
theorem leadsTo_same {statement : Statement} {file : String} {before : Table}
    {told : Except Failure Nat → Table → Prop}
    (ran : scene.run statement = .ok (.reading (.affected 0))) (holds : told (.ok 0) before) :
    scene.LeadsTo statement file before told :=
  .inl ⟨_, 0, before, ran, rfl, holds, .inr ⟨rfl, rfl⟩⟩

/-- Emptying a column of the rows that match leads to the table with the column emptied. -/
theorem leadsTo_emptied (sound : table.Sound) (found : scene.table name = .ok table)
    (tells : scene.Tells table condition matching) {payload : String} {column : Nat}
    (placed : table.columnIndex payload = .ok column) (inside : column < table.columns.length) :
    scene.LeadsTo (.update name [(payload, .binary [])] (some condition)) (fileName name) table
      fun answer after => table.Emptied after matching column ∧
        answer = .ok (table.rows.countP matching) := by
  refine .inl ⟨_, table.rows.countP matching, table.emptied matching column,
    update_emptied found tells placed, rfl, ⟨sound.emptied matching inside, rfl⟩, ?_⟩
  dsimp only
  split
  · rename_i none
    have unmatched : ∀ row ∈ table.rows, matching row = false := by
      intro row member
      simpa using List.countP_eq_zero.1 none row member
    exact .inr ⟨rfl, Table.emptied_of_none column unmatched⟩
  · exact .inl rfl

/-- Inserting a row of constants leads to the table with the row, or is refused because of
its key. -/
theorem leadsTo_created (sound : table.Sound) (found : scene.table name = .ok table)
    {columns : List String} {operands : List Operand} {cells : List (Nat × Value)}
    (sized : columns.length = operands.length)
    (resolved : scene.resolve table (columns.zip operands) = .ok cells) :
    scene.LeadsTo (.insert name columns operands) (fileName name) table
      (table.Created fun column => (lastValue? cells column).getD .null) := by
  have ran : scene.run (.insert name columns operands) = _ := insert_rowOf found sized resolved
  rcases sound.insert_rowOf fun column => (lastValue? cells column).getD .null with
    ⟨grown, inserted, created⟩ | ⟨failure, refused, created⟩
  · rw [inserted] at ran
    exact .inl ⟨_, 1, grown, ran, rfl, created, .inl rfl⟩
  · rw [refused] at ran
    exact .inr ⟨failure, ran, created⟩

/-- A branch goes where its condition says. -/
theorem run_branch (found : scene.table name = .ok table)
    (tells : scene.Tells table condition matching) (negated : Bool) (body otherwise : Statement) :
    scene.run (.branch negated ⟨[.one], name, some condition⟩ body otherwise) =
      if table.rows.any matching = negated then scene.run otherwise else scene.run body := by
  rw [run, select_one found tells]
  simp only [bind, Except.bind, isEmpty_found]
  cases table.rows.any matching <;> cases negated <;> rfl

/-- A conditional runs its body if its condition says so, and else affects no row. -/
theorem run_conditional (found : scene.table name = .ok table)
    (tells : scene.Tells table condition matching) (negated : Bool) (body : Statement) :
    scene.run (.conditional negated ⟨[.one], name, some condition⟩ body) =
      if table.rows.any matching = negated then .ok (.reading (.affected 0))
      else scene.run body := by
  rw [run, select_one found tells]
  simp only [bind, Except.bind, isEmpty_found]
  cases table.rows.any matching <;> cases negated <;> rfl

end Scene

end RowPayload.Engine
