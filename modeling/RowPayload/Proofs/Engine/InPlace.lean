import RowPayload.Proofs.Engine.Statements
import RowPayload.Proofs.Engine.View
import RowPayload.Proofs.Engine.WorkingCopy
import RowPayload.Proofs.Sample
import RowPayload.Proofs.Work.Laws

/-!
# Statements that fail

A statement may also be run store by store: a row number is used up, a row is appended, a cell
is assigned, a note is made, a count goes up, each on its own, and whatever was stored before a
failure remains. Here this is written out and proved to come to the same as running the
statement apart and taking in its effect. All that can fail comes before the first store, so a
statement that fails has stored nothing, whatever it failed at and in whichever branch.
-/

namespace RowPayload

/-- Inserting under a key twice leaves what was inserted last. -/
theorem OrderedMap.insert_insert {κ α : Type} [DecidableEq κ] (map : OrderedMap κ α) (key : κ)
    (first second : α) : (map.insert key first).insert key second = map.insert key second := by
  obtain ⟨entries, distinct⟩ := map
  apply OrderedMap.ext
  show insertEntry key second (insertEntry key first entries) = insertEntry key second entries
  clear distinct
  induction entries with
  | nil => simp [insertEntry]
  | cons entry rest inductionHypothesis =>
    obtain ⟨k, v⟩ := entry
    by_cases same : k = key
    · simp [insertEntry, same]
    · simp [insertEntry, same, inductionHypothesis]

namespace Engine

open Sql (Operand Condition Statement)

/-! ## Stores -/

namespace Table

/-- Use up a row number. -/
def useNumber (table : Table) : Table := { table with nextRowId := table.nextRowId + 1 }

/-- Append a row. -/
def appendRow (row : TableRow) (table : Table) : Table :=
  { table with rows := table.rows ++ [row] }

/-- Assign one cell of the row at a place. -/
def assignAt (place : Nat) (cell : Nat × Value) (table : Table) : Table :=
  { table with rows := table.rows.modify place fun row => row.assign [cell] }

end Table

/-- The copies that a statement changes, and how many rows it has inserted and updated. -/
structure Bench where
  copy : WorkingCopy
  inserted : Nat
  updated : Nat

namespace Bench

/-- Change the table filed under a name. -/
def alter (file : String) (change : Table → Table) (bench : Bench) : Bench :=
  match bench.copy.tables.get? file with
  | some table => { bench with copy := bench.copy.put file (change table) }
  | none => bench

/-- Note that a table was changed. -/
def touch (file : String) (bench : Bench) : Bench := { bench with copy := bench.copy.touch file }

/-- Count rows inserted. -/
def countInserted (count : Nat) (bench : Bench) : Bench :=
  { bench with inserted := bench.inserted + count }

/-- Count rows updated. -/
def countUpdated (count : Nat) (bench : Bench) : Bench :=
  { bench with updated := bench.updated + count }

/-! ## Statements, store by store -/

/-- Store a new row. -/
def storeRow (file : String) (row : TableRow) : Work Failure Bench Outcome := do
  modify (alter file Table.useNumber)
  modify (alter file (Table.appendRow row))
  modify (touch file)
  modify (countInserted 1)
  return .affected 1

/-- Store cells of the rows at some places. -/
def storeCells (file : String) (places : List Nat) (cells : List (Nat × Value)) :
    Work Failure Bench Outcome := do
  forM places fun place =>
    forM cells fun cell => modify (alter file (Table.assignAt place cell))
  if places.length ≠ 0 then modify (touch file)
  modify (countUpdated places.length)
  return .affected places.length

section

variable (parameters : List Parameter) (token : Option Bytes)

/-- What a statement reads and binds. -/
def look : Work Failure Bench Scene := return (← get).copy.scene parameters token

/-- Insert a row of constants. -/
def insert (name : String) (columns : List String) (operands : List Operand) :
    Work Failure Bench Outcome := do
  let scene ← look parameters token
  let table ← liftM (scene.table name)
  if columns.length ≠ operands.length then
    throw (.columnCount name)
  else
    let cells ← liftM (scene.resolve table (columns.zip operands))
    let row := table.blankRow.assign cells
    match table.takenKey? row.values with
    | some key => throw (.duplicateKey table.name key.toText)
    | none => storeRow (fileName name) row

/-- The places of the rows that pass a filter, counted from a number on. -/
def placesFrom (table : Table) (filter : Option Condition) :
    Nat → List TableRow → Except Failure (List Nat)
  | _, [] => .ok []
  | place, row :: rest => do
    let passed ← passes parameters table filter row
    let others ← placesFrom table filter (place + 1) rest
    return if passed then place :: others else others

/-- Assign constants to columns of the rows that pass a filter. -/
def update (name : String) (assignments : List (String × Operand)) (filter : Option Condition) :
    Work Failure Bench Outcome := do
  let scene ← look parameters token
  let table ← liftM (scene.table name)
  let cells ← liftM (scene.resolve table assignments)
  let places ← liftM (placesFrom parameters table filter 0 table.rows)
  storeCells (fileName name) places cells

/-- Run a statement. -/
def run : Statement → Work Failure Bench Outcome
  | .insert table columns operands => insert parameters token table columns operands
  | .update table assignments filter => update parameters token table assignments filter
  | .select query => do
    let scene ← look parameters token
    return .rows (← liftM (scene.select query))
  | .conditional negated probe body => do
    let scene ← look parameters token
    let found ← liftM (scene.select probe)
    if found.rows.isEmpty = negated then run body else return .affected 0
  | .branch negated probe body otherwise => do
    let scene ← look parameters token
    let found ← liftM (scene.select probe)
    if found.rows.isEmpty = negated then run body else run otherwise

end

/-! ## Stores that follow each other -/

/-- A change of a table that is there puts the changed table in its place. -/
theorem alter_of_found {bench : Bench} {file : String} {table : Table}
    (found : bench.copy.tables.get? file = some table) (change : Table → Table) :
    bench.alter file change = { bench with copy := bench.copy.put file (change table) } := by
  simp only [alter, found]

/-- Changes of one table that follow each other are one change. -/
theorem alter_alter (file : String) (first second : Table → Table) (bench : Bench) :
    (bench.alter file first).alter file second =
      bench.alter file fun table => second (first table) := by
  cases found : bench.copy.tables.get? file with
  | none => simp only [alter, found]
  | some table =>
    have stored : (bench.copy.put file (first table)).tables.get? file = some (first table) := by
      simp [WorkingCopy.put, OrderedMap.get?_insert]
    rw [alter_of_found found, alter_of_found found, alter_of_found stored]
    simp only [WorkingCopy.put, OrderedMap.insert_insert]

/-- A change of a table to itself changes nothing. -/
theorem alter_same {bench : Bench} {file : String} {table : Table}
    (found : bench.copy.tables.get? file = some table) {change : Table → Table}
    (same : change table = table) : bench.alter file change = bench := by
  rw [alter_of_found found, same, WorkingCopy.put, OrderedMap.insert_self found]

/-- Changes of one table that are made one after another are one change. -/
theorem perform_forM_alter {α : Type} {file : String} {work : α → Work Failure Bench Unit}
    {change : α → Table → Table}
    (alters : ∀ step bench, (work step).perform bench = (.ok (), bench.alter file (change step)))
    (steps : List α) (bench : Bench) :
    (forM steps work : Work Failure Bench Unit).perform bench = (.ok (),
      bench.alter file fun table => steps.foldl (fun table step => change step table) table) := by
  induction steps generalizing bench with
  | nil =>
    show (Except.ok (), bench) = _
    cases found : bench.copy.tables.get? file with
    | none => simp only [alter, found]
    | some table => rw [alter_same found rfl]
  | cons first rest inductionHypothesis =>
    rw [List.forM_cons, Work.perform_bind, alters]
    simp only [inductionHypothesis, alter_alter, List.foldl_cons]

end Bench

/-! ## Rows that are assigned to one by one -/

namespace Table

/-- Assigning the cells of a row one by one assigns them all. -/
theorem foldl_assignAt (place : Nat) (cells : List (Nat × Value)) (table : Table) :
    cells.foldl (fun table cell => assignAt place cell table) table =
      { table with rows := table.rows.modify place fun row => row.assign cells } := by
  induction cells generalizing table with
  | nil =>
    have same : (fun row : TableRow => row.assign []) = id := rfl
    rw [same, List.modify_id]
    rfl
  | cons first rest inductionHypothesis =>
    rw [List.foldl_cons, inductionHypothesis]
    simp only [assignAt, List.modify_modify_eq]
    rfl

/-- Assigning to rows at places one by one changes the rows only. -/
theorem foldl_assignRows (cells : List (Nat × Value)) (places : List Nat) (table : Table) :
    places.foldl (fun table place =>
        cells.foldl (fun table cell => assignAt place cell table) table) table =
      { table with
        rows := places.foldl (fun rows place => rows.modify place fun row => row.assign cells)
          table.rows } := by
  induction places generalizing table with
  | nil => rfl
  | cons first rest inductionHypothesis =>
    rw [List.foldl_cons, inductionHypothesis, foldl_assignAt]
    rfl

end Table

/-- The places that are marked, counted from a number on. -/
def markedFrom : Nat → List (TableRow × Bool) → List Nat
  | _, [] => []
  | place, (_, marked) :: rest =>
    if marked then place :: markedFrom (place + 1) rest else markedFrom (place + 1) rest

/-- As many places are marked as there are marks. -/
theorem length_markedFrom (place : Nat) (marked : List (TableRow × Bool)) :
    (markedFrom place marked).length = marked.countP Prod.snd := by
  induction marked generalizing place with
  | nil => rfl
  | cons first rest inductionHypothesis =>
    obtain ⟨row, mark⟩ := first
    cases mark <;> simp [markedFrom, inductionHypothesis]

/-- Changing the rows at the places marked changes the rows marked. -/
theorem foldl_markedFrom (change : TableRow → TableRow) (before : List TableRow)
    (marked : List (TableRow × Bool)) :
    (markedFrom before.length marked).foldl (fun rows place => rows.modify place change)
        (before ++ marked.map Prod.fst) =
      before ++ marked.map fun (row, mark) => if mark then change row else row := by
  induction marked generalizing before with
  | nil => rfl
  | cons first rest inductionHypothesis =>
    obtain ⟨row, mark⟩ := first
    -- the rows gone through already are those before the place that comes next
    have following (passed : TableRow) := inductionHypothesis (before ++ [passed])
    simp only [List.length_append, List.length_singleton, List.append_assoc,
      List.singleton_append] at following
    cases mark with
    | false => simpa [markedFrom] using following row
    | true =>
      have here : (before ++ row :: rest.map Prod.fst).modify before.length change =
          before ++ change row :: rest.map Prod.fst := by
        clear following inductionHypothesis
        induction before with
        | nil => rfl
        | cons head tail inductionHypothesis =>
          rw [List.cons_append, List.length_cons, List.modify_succ_cons, inductionHypothesis]
          rfl
      simp only [markedFrom, if_true, List.foldl_cons, List.map_cons, here, following]

namespace Bench

/-- The places of the rows that pass are those that are marked when every row is marked with
whether it passes. -/
theorem placesFrom_eq (parameters : List Parameter) (table : Table) (filter : Option Condition)
    (place : Nat) (rows : List TableRow) :
    placesFrom parameters table filter place rows =
      (rows.mapM fun row => do
        return (row, ← passes parameters table filter row)).map (markedFrom place) := by
  induction rows generalizing place with
  | nil => rfl
  | cons first rest inductionHypothesis =>
    rw [placesFrom, List.mapM_cons, inductionHypothesis]
    cases passes parameters table filter first with
    | error failure => rfl
    | ok passed =>
      simp only [bind, Except.bind, pure, Except.pure]
      generalize (rest.mapM _ : Except Failure (List (TableRow × Bool))) = others
      cases others with
      | error failure => rfl
      | ok marked => cases passed <;> rfl

/-! ## Store by store and apart -/

/-- Take in the effect of a statement. -/
def take (bench : Bench) (effect : Effect) : Bench :=
  ⟨bench.copy.take effect.written, bench.inserted + effect.inserted,
    bench.updated + effect.updated⟩

/-- What a statement answers that is run apart, and what is left when its effect is taken in. -/
def apart (bench : Bench) : Except Failure Effect → Except Failure Outcome × Bench
  | .ok effect => (.ok effect.outcome, bench.take effect)
  | .error failure => (.error failure, bench)

/-- Storing a new row takes in the table with the row appended. -/
theorem perform_storeRow {bench : Bench} {file : String} {table : Table}
    (found : bench.copy.tables.get? file = some table) (row : TableRow) :
    (storeRow file row).perform bench = bench.apart (.ok ⟨some (file, { table with
      rows := table.rows ++ [row], nextRowId := table.nextRowId + 1 }), 1, 0, .affected 1⟩) := by
  simp only [storeRow, Work.perform_bind, Work.perform_modify, Work.perform_pure, alter_alter]
  rw [alter_of_found found]
  rfl

/-- Storing cells of the rows that are marked takes in the table with the cells assigned in the
rows marked, if there are any. -/
theorem perform_storeCells {bench : Bench} {file : String} {table : Table}
    (found : bench.copy.tables.get? file = some table) {marked : List (TableRow × Bool)}
    (marks : marked.map Prod.fst = table.rows) (cells : List (Nat × Value)) :
    (storeCells file (markedFrom 0 marked) cells).perform bench = bench.apart (.ok
      ⟨if marked.countP Prod.snd = 0 then none else some (file, { table with
          rows := marked.map fun (row, mark) => if mark then row.assign cells else row }),
        0, marked.countP Prod.snd, .affected (marked.countP Prod.snd)⟩) := by
  have stored : table.rows = [] ++ marked.map Prod.fst := marks.symm
  have rowsOf : (markedFrom 0 marked).foldl (fun rows place => rows.modify place fun row =>
      row.assign cells) table.rows =
        marked.map fun (row, mark) => if mark then row.assign cells else row := by
    rw [stored]
    exact foldl_markedFrom (fun row => row.assign cells) [] marked
  have row (place : Nat) (bench : Bench) :
      (forM cells fun cell => modify (alter file (Table.assignAt place cell)) :
        Work Failure Bench Unit).perform bench = (.ok (), bench.alter file fun table =>
          cells.foldl (fun table cell => Table.assignAt place cell table) table) :=
    perform_forM_alter (fun _ _ => rfl) cells bench
  have looped := perform_forM_alter row (markedFrom 0 marked) bench
  rw [alter_of_found found, Table.foldl_assignRows, rowsOf] at looped
  simp only [storeCells, Work.perform_bind, looped, length_markedFrom]
  by_cases unmarked : marked.countP Prod.snd = 0
  · have same : (marked.map fun (row, mark) => if mark then row.assign cells else row) =
        table.rows := by
      rw [WorkingCopy.map_assign_unmarked unmarked, marks]
    have kept : bench.copy.put file { table with rows := table.rows } = bench.copy := by
      rw [WorkingCopy.put, OrderedMap.insert_self found]
    simp only [unmarked, same, kept]
    rfl
  · simp only [ne_eq, unmarked, not_false_eq_true, if_true]
    rfl

section

variable (parameters : List Parameter) (token : Option Bytes)

/-- Looking changes nothing. -/
@[simp] theorem perform_look (bench : Bench) :
    (look parameters token).perform bench = (.ok (bench.copy.scene parameters token), bench) := rfl

/-- An insertion, store by store. -/
theorem perform_insert (name : String) (columns : List String) (operands : List Operand)
    (bench : Bench) :
    (insert parameters token name columns operands).perform bench =
      bench.apart ((bench.copy.scene parameters token).insert name columns operands) := by
  simp only [insert, Scene.insert, Work.perform_bind, perform_look, Work.perform_lift]
  cases found : (bench.copy.scene parameters token).table name with
  | error failure => rfl
  | ok table =>
    by_cases counts : columns.length ≠ operands.length
    · simp only [if_pos counts]
      rfl
    · simp only [if_neg counts, Work.perform_bind, Work.perform_lift]
      cases resolved : (bench.copy.scene parameters token).resolve table
        (columns.zip operands) with
      | error failure => simp [bind, Except.bind, apart, resolved]
      | ok cells =>
        have blank : (⟨table.nextRowId, List.replicate table.columns.length .null⟩ : TableRow) =
          table.blankRow := rfl
        simp only [bind, Except.bind, pure, Except.pure, Table.insert, resolved, blank]
        cases taken : table.takenKey? (table.blankRow.assign cells).values with
        | some key => rfl
        | none => exact perform_storeRow (Scene.table?_of_table found) _

/-- An update, store by store. -/
theorem perform_update (name : String) (assignments : List (String × Operand))
    (filter : Option Condition) (bench : Bench) :
    (update parameters token name assignments filter).perform bench =
      bench.apart ((bench.copy.scene parameters token).update name assignments filter) := by
  simp only [update, Scene.update, Work.perform_bind, perform_look, Work.perform_lift,
    placesFrom_eq]
  have bound : (bench.copy.scene parameters token).parameters = parameters := rfl
  cases found : (bench.copy.scene parameters token).table name with
  | error failure => rfl
  | ok table =>
    cases resolved : (bench.copy.scene parameters token).resolve table assignments with
    | error failure => simp [bind, Except.bind, apart, resolved]
    | ok cells =>
      simp only [resolved, bind, Except.bind, pure, Except.pure, bound]
      generalize marks :
        (table.rows.mapM _ : Except Failure (List (TableRow × Bool))) = result
      cases result with
      | error failure => rfl
      | ok marked =>
        exact perform_storeCells (Scene.table?_of_table found) (Scene.map_fst_marked marks) cells

/-- **Store by store a statement answers what it answers apart, and leaves what taking in its
effect leaves.** -/
theorem perform_run (statement : Statement) (bench : Bench) :
    (run parameters token statement).perform bench =
      bench.apart ((bench.copy.scene parameters token).run statement) := by
  induction statement with
  | insert name columns operands => exact perform_insert parameters token name columns operands bench
  | update name assignments filter =>
    exact perform_update parameters token name assignments filter bench
  | select query =>
    simp only [run, Scene.run, Work.perform_bind, perform_look, Work.perform_lift]
    cases (bench.copy.scene parameters token).select query <;> rfl
  | conditional negated probe body inductionHypothesis =>
    simp only [run, Scene.run, Work.perform_bind, perform_look, Work.perform_lift]
    cases (bench.copy.scene parameters token).select probe with
    | error failure => rfl
    | ok found =>
      simp only [bind, Except.bind]
      split
      · exact inductionHypothesis
      · rfl
  | branch negated probe body otherwise bodyHypothesis otherwiseHypothesis =>
    simp only [run, Scene.run, Work.perform_bind, perform_look, Work.perform_lift]
    cases (bench.copy.scene parameters token).select probe with
    | error failure => rfl
    | ok found =>
      simp only [bind, Except.bind]
      split
      · exact bodyHypothesis
      · exact otherwiseHypothesis

end

end Bench

/-! ## Statements of a connection -/

namespace Server

/-- The copies on which a statement of a connection is run store by store: those kept for its
transaction, or fresh ones of the committed tables. -/
def RunsOn (server : Server) (id : Nat) (copy : WorkingCopy) : Prop :=
  match server.connection id with
  | .inTransaction transaction => copy.Mirrors transaction
  | .ready => copy = .ofCatalog server.catalog
  | .closed => True

/-- A statement can be run store by store on every connection. -/
theorem exists_runsOn (server : Server) (id : Nat) : ∃ copy, server.RunsOn id copy := by
  unfold RunsOn
  cases server.connection id with
  | closed => exact ⟨.ofCatalog server.catalog, trivial⟩
  | ready => exact ⟨_, rfl⟩
  | inTransaction transaction => exact ⟨_, transaction.copies_mirrors⟩

/-- Execute a statement store by store. -/
def executeStores (server : Server) (id : Nat) (command : Command) : Work Failure Bench Nat :=
  match server.connection id with
  | .closed => throw .connectionClosed
  | state => do
    let statement ← liftM ((Sql.parse command.sql).mapError Failure.badSyntax)
    match ← Bench.run command.parameters (server.scene state []).token statement with
    | .affected rows => return rows
    | .rows _ => throw .queryExecuted

variable {server : Server} {id : Nat}

/-- What a statement of an open connection reads and binds is read from the copies it runs
on. -/
theorem RunsOn.scene_eq {copy : WorkingCopy} (runsOn : server.RunsOn id copy)
    (alive : server.connection id ≠ .closed) (parameters : List Parameter) :
    copy.scene parameters (server.scene (server.connection id) []).token =
      server.scene (server.connection id) parameters := by
  unfold RunsOn at runsOn
  cases connected : server.connection id with
  | closed => exact absurd connected alive
  | ready =>
    rw [connected] at runsOn
    rw [runsOn]
    rfl
  | inTransaction transaction =>
    rw [connected] at runsOn
    exact runsOn.scene_eq parameters (some transaction.token)

/-- A statement that answers rows has only read. -/
theorem eq_reading_of_rows {scene : Scene} {statement : Statement} {effect : Effect}
    {result : ResultSet} (ran : scene.run statement = .ok effect)
    (answered : effect.outcome = .rows result) : effect = .reading (.rows result) := by
  rcases Scene.run_cases ran with ⟨_, _, _, inserted⟩ | ⟨_, _, _, updated⟩ | ⟨outcome, rfl⟩
  · obtain ⟨_, _, _, _, _, _, rfl⟩ := Scene.insert_ok inserted
    cases answered
  · obtain ⟨_, _, _, _, _, _, rfl⟩ := Scene.update_ok updated
    cases answered
  · cases answered
    rfl

/-- Why executing a statement fails, and the server it leaves. -/
inductive ExecuteFails (server : Server) (id : Nat) (command : Command) : Failure → Server → Prop where
  | closed (closed : server.connection id = .closed) :
      ExecuteFails server id command .connectionClosed server
  | unreadable (alive : server.connection id ≠ .closed) {fault : Sql.SyntaxFault}
      (parsed : Sql.parse command.sql = .error fault) :
      ExecuteFails server id command (.badSyntax fault) server
  | failing (alive : server.connection id ≠ .closed) {statement : Statement} {failure : Failure}
      (parsed : Sql.parse command.sql = .ok statement)
      (ran : (server.scene (server.connection id) command.parameters).run statement =
        .error failure) :
      ExecuteFails server id command failure (server.countStatement 0 0)
  | selecting (alive : server.connection id ≠ .closed) {statement : Statement} {result : ResultSet}
      (parsed : Sql.parse command.sql = .ok statement)
      (ran : (server.scene (server.connection id) command.parameters).run statement =
        .ok (.reading (.rows result))) :
      ExecuteFails server id command .queryExecuted (server.countStatement 0 0)

/-- Executing a statement fails for one of these reasons. -/
theorem executeFails {after : Server} {command : Command} {failure : Failure}
    (failed : server.execute id command = (.error failure, after)) :
    server.ExecuteFails id command failure after := by
  by_cases closed : server.connection id = .closed
  · simp only [execute, Server.run, closed] at failed
    cases failed
    exact .closed closed
  cases parsed : Sql.parse command.sql with
  | error fault =>
    simp only [execute, run_of_alive closed, runOpen, parsed] at failed
    cases failed
    exact .unreadable closed parsed
  | ok statement =>
    rw [execute, run_of_parse closed parsed] at failed
    cases ran : (server.scene (server.connection id) command.parameters).run statement with
    | error reason =>
      rw [ran] at failed
      cases failed
      exact .failing closed parsed ran
    | ok effect =>
      rw [ran] at failed
      dsimp only at failed
      cases answered : effect.outcome with
      | affected rows =>
        rw [answered] at failed
        cases failed
      | rows result =>
        obtain rfl := eq_reading_of_rows ran answered
        cases failed
        exact .selecting closed parsed ran

/-- On an open connection a statement is run store by store once it is parsed. -/
theorem executeStores_of_alive (alive : server.connection id ≠ .closed) (command : Command) :
    server.executeStores id command = (do
      let statement ← liftM ((Sql.parse command.sql).mapError Failure.badSyntax)
      match ← Bench.run command.parameters
          (server.scene (server.connection id) []).token statement with
      | .affected rows => return rows
      | .rows _ => throw .queryExecuted) := by
  unfold executeStores
  split
  · rename_i closed
    exact absurd closed alive
  · rfl

/-- A statement that was parsed is run store by store right away. -/
theorem executeStores_of_parse (alive : server.connection id ≠ .closed) {command : Command}
    {statement : Statement} (parsed : Sql.parse command.sql = .ok statement) :
    server.executeStores id command = (do
      match ← Bench.run command.parameters
          (server.scene (server.connection id) []).token statement with
      | .affected rows => return rows
      | .rows _ => throw .queryExecuted) := by
  rw [executeStores_of_alive alive, parsed]
  rfl

/-- **A failed execute changes nothing.** Whatever executing a statement fails at, all that the
server differs in afterwards is how many statements were run. And when it is run store by store,
nothing was stored before it failed. -/
theorem failed_execute_changes_nothing (server : Server) (id : Nat) (command : Command)
    {failure : Failure} (failed : (server.execute id command).1 = .error failure) :
    (∃ statements, (server.execute id command).2 =
        { server with counters := { server.counters with statements } }) ∧
      ∀ bench : Bench, server.RunsOn id bench.copy →
        (server.executeStores id command).perform bench = (.error failure, bench) := by
  obtain ⟨after, executed⟩ : ∃ after, server.execute id command = (.error failure, after) :=
    ⟨_, Prod.ext failed rfl⟩
  rw [executed]
  cases executeFails executed with
  | closed closed =>
    refine ⟨⟨server.counters.statements, rfl⟩, fun bench _ => ?_⟩
    simp only [executeStores, closed]
    rfl
  | unreadable alive parsed =>
    refine ⟨⟨server.counters.statements, rfl⟩, fun bench _ => ?_⟩
    rw [executeStores_of_alive alive, parsed]
    rfl
  | failing alive parsed ran =>
    refine ⟨⟨_, rfl⟩, fun bench runsOn => ?_⟩
    rw [← runsOn.scene_eq alive] at ran
    rw [executeStores_of_parse alive parsed]
    simp only [Work.perform_bind, Bench.perform_run, ran]
    rfl
  | selecting alive parsed ran =>
    refine ⟨⟨_, rfl⟩, fun bench runsOn => ?_⟩
    rw [← runsOn.scene_eq alive] at ran
    rw [executeStores_of_parse alive parsed]
    simp only [Work.perform_bind, Bench.perform_run, ran]
    rfl

end Server

end Engine

/-! ## A statement that fails late -/

namespace Sample

open Engine

/-- A server with two recordings, on whose connection a transaction has begun. -/
def twoInTransaction : Server :=
  ((((connected.execute 0 (insertion 7)).2).execute 0 (insertion 8)).2.beginTransaction 0).2

/-- A statement that fails at the second recording: that the column is unknown goes unseen at the
first one, which passes without it. -/
def failingLate : Command := .ofText "UPDATE Recordings SET Title = 'Dusk' WHERE Id = 7 OR Loud = 1"

end Sample

namespace Engine.Server

/-- What an answer fails with. -/
def failure? {α : Type} : Except Failure α → Option Failure
  | .error failure => some failure
  | .ok _ => none

/-- An answer fails with what it is found to fail with. -/
theorem eq_error_of_failure? {α : Type} {answer : Except Failure α} {failure : Failure}
    (found : failure? answer = some failure) : answer = .error failure := by
  cases answer with
  | error reason =>
    cases found
    rfl
  | ok value => cases found

/-- The statement fails at the second recording, and the first one has not changed. Run store by
store, it has not stored anything either. -/
theorem failed_execute_changes_nothing_late :
    (Sample.twoInTransaction.execute 0 Sample.failingLate).1 =
        .error (.unknownColumn "Recordings" "Loud") ∧
      (∃ statements, (Sample.twoInTransaction.execute 0 Sample.failingLate).2 =
        { Sample.twoInTransaction with
          counters := { Sample.twoInTransaction.counters with statements } }) ∧
      ∃ bench : Bench, Sample.twoInTransaction.RunsOn 0 bench.copy ∧
        (Sample.twoInTransaction.executeStores 0 Sample.failingLate).perform bench =
          (.error (.unknownColumn "Recordings" "Loud"), bench) := by
  have failed : (Sample.twoInTransaction.execute 0 Sample.failingLate).1 =
      .error (.unknownColumn "Recordings" "Loud") := eq_error_of_failure? (by decide +kernel)
  obtain ⟨counted, stored⟩ :=
    failed_execute_changes_nothing Sample.twoInTransaction 0 Sample.failingLate failed
  obtain ⟨copy, runsOn⟩ := exists_runsOn Sample.twoInTransaction 0
  exact ⟨failed, counted, ⟨copy, 0, 0⟩, runsOn, stored ⟨copy, 0, 0⟩ runsOn⟩

end Engine.Server

end RowPayload
