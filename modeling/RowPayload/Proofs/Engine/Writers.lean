import RowPayload.Proofs.Engine.Change
import RowPayload.Proofs.Engine.View
import RowPayload.Proofs.Sample

/-!
# Two writers of one table

Two transactions on two connections insert rows into the same table and commit. Committing
puts the tables a transaction has changed in the place of those that are committed, as it has
changed them. So the table in the end has the rows of both if the one began after the other
had committed, or if one of them has inserted none. If they overlap, the transaction that
commits last leaves the table as it was when that transaction began, with its own rows: those
of the other are lost.
-/

namespace RowPayload

namespace Engine

namespace Table

/-- The table with a further row of values. -/
def append (table : Table) (values : List Value) : Table :=
  { table with
    rows := table.rows ++ [⟨table.nextRowId, values⟩]
    nextRowId := table.nextRowId + 1 }

/-- The table with further rows of values, in order. -/
def extend (table : Table) (rows : List (List Value)) : Table := rows.foldl append table

@[simp] theorem extend_nil (table : Table) : table.extend [] = table := rfl

/-- Rows may be added in two parts. -/
theorem extend_append (table : Table) (first second : List (List Value)) :
    table.extend (first ++ second) = (table.extend first).extend second :=
  List.foldl_append

/-- A row of values that was inserted was added. -/
theorem append_of_insert {table grown : Table} {values : List Value}
    (inserted : table.insert values = .ok grown) : grown = table.append values := by
  unfold Table.insert at inserted
  split at inserted
  · cases inserted
  · cases inserted
    rfl

/-- A table with a row more is another table. -/
theorem append_ne (table : Table) (values : List Value) : table.append values ≠ table := by
  intro same
  have rows := congrArg (fun changed => changed.rows.length) same
  simp [append] at rows

end Table

/-! ## What writers do -/

/-- What a writer of a table does: begin, insert a row of values or be refused, commit. -/
inductive Deed where
  | began
  | inserted (values : List Value)
  | refused (failure : Failure)
  | committed
deriving DecidableEq

/-- Something done on a connection to the table filed under a name. -/
inductive Does (file : String) (server : Server) (id : Nat) : Deed → Server → Prop where
  | began (done : (server.beginTransaction id).1 = .ok ()) :
      Does file server id .began (server.beginTransaction id).2
  /-- A statement in a transaction after which it sees a row more in the table. -/
  | inserted {transaction : Transaction} (held : server.connection id = .inTransaction transaction)
      {command : Command} (table : Table) {values : List Value}
      (seen : server.view id file = some table)
      (grown : (server.execute id command).2.view id file = some (table.append values)) :
      Does file server id (.inserted values) (server.execute id command).2
  | refused {transaction : Transaction} (held : server.connection id = .inTransaction transaction)
      {command : Command} {failure : Failure}
      (failed : (server.execute id command).1 = .error failure) :
      Does file server id (.refused failure) (server.execute id command).2
  | committed (done : (server.commit id).1 = .ok ()) :
      Does file server id .committed (server.commit id).2

/-- Things done one after another on connections, each with the connection it was done on. -/
inductive Writing (file : String) : Server → List (Nat × Deed) → Server → Prop where
  | done (server : Server) : Writing file server [] server
  | next {server after last : Server} {id : Nat} {deed : Deed} {history : List (Nat × Deed)}
      (does : Does file server id deed after) (rest : Writing file after history last) :
      Writing file server ((id, deed) :: history) last

/-- What was done on a connection. -/
def deedsOf (id : Nat) (history : List (Nat × Deed)) : List Deed :=
  history.filterMap fun (writer, deed) => if writer = id then some deed else none

/-- The rows that were inserted. -/
def insertedRows (deeds : List Deed) : List (List Value) :=
  deeds.filterMap fun
    | .inserted values => some values
    | .began | .refused _ | .committed => none

@[simp] theorem deedsOf_nil (id : Nat) : deedsOf id [] = [] := rfl

@[simp] theorem deedsOf_cons (id writer : Nat) (deed : Deed) (rest : List (Nat × Deed)) :
    deedsOf id ((writer, deed) :: rest) =
      if writer = id then deed :: deedsOf id rest else deedsOf id rest := by
  rw [deedsOf, List.filterMap_cons]
  split <;> split <;> simp_all [deedsOf]

/-- Something was done on a connection if it is among what was done. -/
theorem mem_deedsOf {id : Nat} {deed : Deed} {history : List (Nat × Deed)} :
    deed ∈ deedsOf id history ↔ (id, deed) ∈ history := by
  induction history with
  | nil => simp
  | cons entry rest inductionHypothesis =>
    obtain ⟨writer, first⟩ := entry
    rw [deedsOf_cons]
    split <;> simp_all [eq_comm]

@[simp] theorem insertedRows_nil : insertedRows [] = [] := rfl

theorem insertedRows_append (first second : List Deed) :
    insertedRows (first ++ second) = insertedRows first ++ insertedRows second :=
  List.filterMap_append

/-- An insertion in a transaction that does not fail adds a row to the table that the
transaction sees. -/
theorem Does.of_insertion {server : Server} {id : Nat} {transaction : Transaction}
    (held : server.connection id = .inTransaction transaction) {command : Command}
    {name : String} {columns : List String} {operands : List Sql.Operand}
    (parsed : Sql.parse command.sql = .ok (.insert name columns operands)) {count : Nat}
    (done : (server.execute id command).1 = .ok count) :
    ∃ values, Does (fileName name) server id (.inserted values) (server.execute id command).2 := by
  have alive : server.connection id ≠ .closed := by simp [held]
  cases ran : (server.scene (server.connection id) command.parameters).run
      (.insert name columns operands) with
  | error failure =>
    rw [Server.execute_error alive parsed ran] at done
    cases done
  | ok effect =>
    obtain ⟨table, cells, grown, found, -, grows, rfl⟩ := Scene.insert_ok ran
    have seen : server.view id (fileName name) = some table := by
      rw [← Server.table?_scene server id command.parameters]
      exact Scene.table?_of_table found
    have added : grown = table.append (table.blankRow.assign cells).values :=
      Table.append_of_insert grows
    refine ⟨(table.blankRow.assign cells).values, .inserted held table seen ?_⟩
    rw [Server.execute_ok alive parsed ran rfl, added]
    have changed := Server.tableChanged_absorb alive (fileName name)
      (table.append (table.blankRow.assign cells).values) 1 0
    rw [changed.view, if_pos rfl]

/-! ## Transactions at work -/

/-- A transaction began when a table was as told, and has inserted rows into it since. -/
structure Transaction.Inserting (transaction : Transaction) (file : String)
    (origin : Option Table) (rows : List (List Value)) : Prop where
  began : transaction.origin.get? file = origin
  untouched : rows = [] → transaction.changed.get? file = none
  written : rows ≠ [] → ∃ first, origin = some first ∧
    transaction.changed.get? file = some (first.extend rows)

/-- Such a transaction sees the table it began with, and its rows. -/
theorem Transaction.Inserting.table?_eq {transaction : Transaction} {file : String}
    {origin : Option Table} {rows : List (List Value)}
    (inserting : transaction.Inserting file origin rows) :
    transaction.table? file = origin.map (·.extend rows) := by
  rw [Transaction.table?, inserting.began]
  by_cases none : rows = []
  · rw [inserting.untouched none, none]
    cases origin <;> rfl
  · obtain ⟨first, rfl, changed⟩ := inserting.written none
    rw [changed]
    rfl

/-- A connection is in such a transaction. -/
def Working (file : String) (server : Server) (id : Nat) (origin : Option Table)
    (rows : List (List Value)) : Prop :=
  ∃ transaction, server.connection id = .inTransaction transaction ∧
    transaction.Inserting file origin rows

namespace Working

variable {file : String} {server after : Server} {id : Nat} {origin : Option Table}
variable {rows : List (List Value)}

/-- A transaction that begins has inserted nothing. -/
theorem began (done : (server.beginTransaction id).1 = .ok ()) :
    Working file (server.beginTransaction id).2 id (server.catalog.get? file) [] :=
  ⟨_, Server.connection_begun done, rfl, fun _ => rfl, fun some => absurd rfl some⟩

/-- A row that a working transaction inserts is one more of its rows. -/
theorem inserted (working : Working file server id origin rows) {command : Command}
    {table : Table} {values : List Value} (seen : server.view id file = some table)
    (grown : (server.execute id command).2.view id file = some (table.append values)) :
    Working file (server.execute id command).2 id origin (rows ++ [values]) := by
  obtain ⟨transaction, held, inserting⟩ := working
  have view : server.view id = transaction.table? := by
    simp only [Server.view, held, Server.scene]
  have before : origin.map (·.extend rows) = some table := by
    rw [← inserting.table?_eq, ← view, seen]
  obtain ⟨first, rfl, extended⟩ := Option.map_eq_some_iff.1 before
  have unchanged {same : Server} (connection : same.connection id = server.connection id)
      (more : same.view id file = some (table.append values)) : False := by
    have still : same.view id file = some table := by
      rw [← seen, Server.view, Server.view, connection, held]
      rfl
    rw [still] at more
    exact table.append_ne values (Option.some.inj more).symm
  rw [Server.execute_snd] at grown ⊢
  rcases Server.run_inTransaction held command with
    same | ⟨inserted, updated, same⟩ | ⟨statement, effect, name, written, -, -, same⟩
  · rw [same] at grown
    exact (unchanged rfl grown).elim
  · rw [same] at grown
    exact (unchanged rfl grown).elim
  · have alive : server.connection id ≠ .closed := by simp [held]
    have now : (server.run id command).2.connection id =
        .inTransaction (transaction.writeTable name written) := by
      rw [same]
      show (server.setConnection id _).connection id = _
      rw [Server.connection_setConnection alive, if_pos rfl]
    have sees : (transaction.writeTable name written).table? file =
        some (table.append values) := by
      rw [← grown, Server.view, now]
      rfl
    rw [Transaction.table?_writeTable] at sees
    -- The table written is this one, for another one does not grow it.
    by_cases here : file = name
    · rw [if_pos here] at sees
      refine ⟨_, now, inserting.began, by simp, fun _ => ⟨first, rfl, ?_⟩⟩
      show (transaction.changed.insert name written).get? file = _
      rw [OrderedMap.get?_insert, if_pos here, sees, Table.extend_append, extended]
      rfl
    · rw [if_neg here, inserting.table?_eq, before] at sees
      exact absurd (Option.some.inj sees).symm (table.append_ne values)

/-- Only the state of the connection bears on a working transaction. -/
theorem of_connection (working : Working file server id origin rows)
    (same : after.connection id = server.connection id) :
    Working file after id origin rows := by
  unfold Working
  rw [same]
  exact working

/-- A statement that is refused leaves its transaction as it is. -/
theorem refused (working : Working file server id origin rows) {command : Command}
    {failure : Failure} (failed : (server.execute id command).1 = .error failure) :
    Working file (server.execute id command).2 id origin rows := by
  obtain ⟨transaction, held, inserting⟩ := working
  have alive : server.connection id ≠ .closed := by simp [held]
  refine ⟨transaction, ?_, inserting⟩
  cases parsed : Sql.parse command.sql with
  | error fault => simp [Server.execute, Server.run, Server.runOpen, held, parsed]
  | ok statement =>
    cases ran : (server.scene (server.connection id) command.parameters).run statement with
    | error failure =>
      rw [Server.execute_error alive parsed ran]
      exact held
    | ok effect =>
      cases outcome : effect.outcome with
      | affected count =>
        rw [Server.execute_ok alive parsed ran outcome] at failed
        cases failed
      | rows result =>
        rw [Server.execute_snd, Server.run_of_parse alive parsed, ran]
        dsimp only
        rw [Scene.written_of_rows ran outcome]
        exact held

/-- Committing puts the table as it was when the transaction began, with the rows of the
transaction, in the place of the committed one, if it has inserted any. -/
theorem committed (working : Working file server id origin rows)
    (done : (server.commit id).1 = .ok ()) :
    (server.commit id).2.catalog.get? file =
      if rows = [] then server.catalog.get? file else origin.map (·.extend rows) := by
  obtain ⟨transaction, held, inserting⟩ := working
  unfold Server.commit at done ⊢
  rw [held] at done ⊢
  dsimp only at done ⊢
  split at done
  · cases done
  · rename_i granted
    rw [if_neg granted]
    show ((server.setConnection id .ready).publish transaction.changed).catalog.get? file = _
    rw [Server.get?_publish]
    by_cases none : rows = []
    · rw [if_pos none, inserting.untouched none]
      rfl
    · obtain ⟨first, rfl, changed⟩ := inserting.written none
      rw [if_neg none, changed]
      rfl

end Working

namespace Does

variable {file : String} {server after : Server} {id : Nat} {deed : Deed}

/-- What is done on a connection leaves the others in their states. -/
theorem connection (does : Does file server id deed after) {other : Nat} (different : other ≠ id) :
    after.connection other = server.connection other := by
  refine Server.connection_of_changes ?_ different
  cases does with
  | began _ => exact Server.changes_beginTransaction server id
  | committed _ => exact Server.changes_commit server id
  | inserted _ _ _ _ =>
    rw [Server.execute_snd]
    exact Server.changes_run server id _
  | refused _ _ =>
    rw [Server.execute_snd]
    exact Server.changes_run server id _

/-- Nothing but a commit changes what is committed. -/
theorem catalog (does : Does file server id deed after) (inside : deed ≠ .committed) :
    after.catalog = server.catalog := by
  cases does with
  | began done =>
    unfold Server.beginTransaction
    split
    · rfl
    · rfl
    · split <;> rfl
  | inserted held _ _ _ => exact (Server.inside_execute held _).catalog
  | refused held _ => exact (Server.inside_execute held _).catalog
  | committed _ => exact absurd rfl inside

/-- What is done in a working transaction, short of committing it, leaves it working, with the
row that was inserted if one was. -/
theorem working {origin : Option Table} {rows : List (List Value)}
    (does : Does file server id deed after) (before : Working file server id origin rows)
    (inside : deed ≠ .committed) : Working file after id origin (rows ++ insertedRows [deed]) := by
  cases does with
  | began done =>
    obtain ⟨transaction, held, -⟩ := before
    simp only [Server.beginTransaction, held] at done
    cases done
  | inserted _ _ seen grown => exact before.inserted seen grown
  | refused _ failed =>
    have same := before.refused failed
    rwa [← List.append_nil rows] at same
  | committed _ => exact absurd rfl inside

end Does

namespace Writing

variable {file : String} {server last : Server} {id : Nat} {history : List (Nat × Deed)}

/-- What was done in two parts was done first and then. -/
theorem split {first second : List (Nat × Deed)}
    (writing : Writing file server (first ++ second) last) :
    ∃ middle, Writing file server first middle ∧ Writing file middle second last := by
  induction first generalizing server with
  | nil => exact ⟨server, .done server, writing⟩
  | cons entry rest inductionHypothesis =>
    cases writing with
    | next does following =>
      obtain ⟨middle, before, after⟩ := inductionHypothesis following
      exact ⟨middle, .next does before, after⟩

/-- As long as nobody commits, what is committed stays. -/
theorem catalog (writing : Writing file server history last)
    (calm : ∀ entry ∈ history, entry.2 ≠ .committed) : last.catalog = server.catalog := by
  induction writing with
  | done _ => rfl
  | next does _ inductionHypothesis =>
    have following := inductionHypothesis fun entry member => calm entry (List.mem_cons_of_mem _ member)
    exact following.trans (does.catalog (calm _ List.mem_cons_self))

/-- A working transaction that goes on without committing has inserted the further rows. -/
theorem working (writing : Writing file server history last) {origin : Option Table}
    {rows : List (List Value)} (before : Working file server id origin rows)
    (calm : .committed ∉ deedsOf id history) :
    Working file last id origin (rows ++ insertedRows (deedsOf id history)) := by
  induction writing generalizing rows with
  | done _ => simpa using before
  | @next _ _ _ writer deed rest does _ inductionHypothesis =>
    rw [deedsOf_cons] at calm ⊢
    by_cases own : writer = id
    · subst own
      rw [if_pos rfl, List.mem_cons, not_or] at calm
      have inside : deed ≠ .committed := Ne.symm calm.1
      have following := inductionHypothesis (does.working before inside) calm.2
      rw [List.append_assoc, ← insertedRows_append] at following
      rwa [if_pos rfl]
    · rw [if_neg own] at calm ⊢
      exact inductionHypothesis (before.of_connection (does.connection (Ne.symm own))) calm

/-- A transaction that began and went on has inserted its rows into the table that was committed
then. -/
theorem working_of_began (writing : Writing file server history last) {work : List Deed}
    (deeds : deedsOf id history = .began :: work) (calm : ∀ entry ∈ history, entry.2 ≠ .committed) :
    Working file last id (server.catalog.get? file) (insertedRows work) := by
  induction writing with
  | done _ => cases deeds
  | @next _ _ _ writer deed rest does following inductionHypothesis =>
    have laterCalm : ∀ entry ∈ rest, entry.2 ≠ .committed := fun entry member =>
      calm entry (List.mem_cons_of_mem _ member)
    rw [deedsOf_cons] at deeds
    by_cases own : writer = id
    · subst own
      rw [if_pos rfl, List.cons.injEq] at deeds
      obtain ⟨rfl, rfl⟩ := deeds
      cases does with
      | began done =>
        have uncommitted : .committed ∉ deedsOf writer rest := fun member =>
          laterCalm _ (mem_deedsOf.1 member) rfl
        exact following.working (Working.began done) uncommitted
    · rw [if_neg own] at deeds
      have before := does.catalog (calm _ List.mem_cons_self)
      rw [← before]
      exact inductionHypothesis deeds laterCalm

end Writing

/-- **What two writers of a table have committed in the end.** On two connections transactions
begin, insert rows into a table or are refused, and commit, in any order; nobody else does
anything. `before` is what was done until the first of them committed, `between` what was done
until the second did. The second commit leaves the table as it was at first, with the rows of
both transactions if the second began after the first had committed, and else with those of the
second only, unless it has inserted none. -/
theorem committed_by_two_writers {file : String} {start last : Server} {first second : Nat}
    {before between : List (Nat × Deed)} {firstWork secondWork : List Deed}
    (different : first ≠ second)
    (writing : Writing file start
      (before ++ (first, .committed) :: between ++ [(second, .committed)]) last)
    (writers : ∀ entry ∈ before ++ between, entry.1 = first ∨ entry.1 = second)
    (firstDeeds : deedsOf first before = .began :: firstWork)
    (firstOver : deedsOf first between = [])
    (secondDeeds : deedsOf second before ++ deedsOf second between = .began :: secondWork)
    (firstInside : .committed ∉ firstWork) (secondInside : .committed ∉ secondWork) :
    last.catalog.get? file = (start.catalog.get? file).map fun table => table.extend
      (if insertedRows secondWork = [] then insertedRows firstWork
        else if deedsOf second before = [] then insertedRows firstWork ++ insertedRows secondWork
        else insertedRows secondWork) := by
  have calmOf {part : List (Nat × Deed)} (among : ∀ entry ∈ part, entry ∈ before ++ between)
      (firstCalm : .committed ∉ deedsOf first part) (secondCalm : .committed ∉ deedsOf second part) :
      ∀ entry ∈ part, entry.2 ≠ .committed := by
    rintro ⟨writer, deed⟩ member rfl
    rcases writers _ (among _ member) with rfl | rfl
    · exact firstCalm (mem_deedsOf.2 member)
    · exact secondCalm (mem_deedsOf.2 member)
  have secondCalm : .committed ∉ deedsOf second before ++ deedsOf second between := by
    rw [secondDeeds]
    simpa using secondInside
  rw [List.mem_append, not_or] at secondCalm
  have calmBefore : ∀ entry ∈ before, entry.2 ≠ .committed :=
    calmOf (fun _ => List.mem_append_left _) (by simpa [firstDeeds] using firstInside) secondCalm.1
  have calmBetween : ∀ entry ∈ between, entry.2 ≠ .committed :=
    calmOf (fun _ => List.mem_append_right _) (by simp [firstOver]) secondCalm.2
  obtain ⟨almost, untilAlmost, lastCommit⟩ := writing.split
  obtain ⟨met, untilMet, firstCommit⟩ := untilAlmost.split
  -- The first commit: its transaction began with the tables committed at the start.
  have firstWorking := untilMet.working_of_began firstDeeds calmBefore
  cases firstCommit with
  | next committing following =>
    have aside := committing.connection different.symm
    cases committing with
    | committed firstDone =>
      have afterFirst : (met.commit first).2.catalog.get? file =
          (start.catalog.get? file).map (·.extend (insertedRows firstWork)) := by
        rw [firstWorking.committed firstDone, untilMet.catalog calmBefore]
        split
        · rename_i none
          rw [none]
          cases start.catalog.get? file <;> rfl
        · rfl
      cases lastCommit with
      | next committing ended =>
        cases ended
        cases committing with
        | committed secondDone =>
          cases begun : deedsOf second before with
          | nil =>
            -- The second transaction began with what the first has committed.
            rw [begun, List.nil_append] at secondDeeds
            have secondWorking := following.working_of_began secondDeeds calmBetween
            rw [secondWorking.committed secondDone, following.catalog calmBetween, afterFirst]
            split
            · rfl
            · rw [if_pos rfl, Option.map_map]
              congr 1
              funext table
              exact (table.extend_append _ _).symm
          | cons deed work =>
            -- The second transaction began with the tables committed at the start.
            rw [begun, List.cons_append, List.cons.injEq] at secondDeeds
            obtain ⟨rfl, rfl⟩ := secondDeeds
            have working := untilMet.working_of_began begun calmBefore
            have secondWorking :=
              following.working (working.of_connection aside) secondCalm.2
            rw [← insertedRows_append] at secondWorking
            rw [secondWorking.committed secondDone, following.catalog calmBetween, afterFirst]
            split <;> simp

end Engine

/-! ## Two recordings -/

namespace Sample

open Engine

/-- The values of an empty recording. -/
def emptyRecording (key : Int64) : List Value := [.bigInt key, .null, .bytes []]

/-- Transactions have begun on both connections. -/
def bothBegan : Server := ((paired.beginTransaction 0).2.beginTransaction 1).2

/-- Then the first transaction has inserted a recording. -/
def oneInserted : Server := (bothBegan.execute 0 (insertion 7)).2

/-- Then the second transaction has inserted another recording. -/
def bothInserted : Server := (oneInserted.execute 1 (insertion 8)).2

/-- Then both transactions were committed. -/
def bothCommitted : Server := ((bothInserted.commit 0).2.commit 1).2

/-- A transaction on the first connection has begun. -/
def firstBegan : Server := (paired.beginTransaction 0).2

/-- Then it has inserted a recording. -/
def firstInserted : Server := (firstBegan.execute 0 (insertion 7)).2

/-- Then it was committed, and a transaction on the second connection has begun. -/
def secondBegan : Server := ((firstInserted.commit 0).2.beginTransaction 1).2

/-- Then that has inserted another recording. -/
def secondInserted : Server := (secondBegan.execute 1 (insertion 8)).2

end Sample

namespace Engine

/-- An answer that is no failure. -/
theorem eq_ok_of_isOk {answer : Except Failure Unit} (answered : answer.isOk = true) :
    answer = .ok () := by
  cases answer with
  | error failure => cases answered
  | ok _ => rfl

/-- Two transactions overlap, each inserts a recording with a key of its own and both commits
are answered without a failure. What is committed has only the recording of the second. -/
theorem overlapping_commits_lose_recording :
    ∃ table, Writing "recordings" Sample.paired
      [(0, .began), (1, .began), (0, .inserted (Sample.emptyRecording 7)),
        (1, .inserted (Sample.emptyRecording 8)), (0, .committed), (1, .committed)]
      Sample.bothCommitted ∧
      Sample.bothCommitted.catalog.get? "recordings" = some table ∧
      Sample.emptyRecording 7 ∉ table.rows.map TableRow.values ∧
      Sample.emptyRecording 8 ∈ table.rows.map TableRow.values := by
  obtain ⟨transactions, tables, commits, last⟩ :
      (Sample.bothBegan.connectionState 0 = .inTransaction ∧
        Sample.oneInserted.connectionState 1 = .inTransaction) ∧
      ((Sample.bothBegan.view 0 "recordings" = some Sample.table ∧
        Sample.oneInserted.view 0 "recordings" =
          some (Sample.table.append (Sample.emptyRecording 7))) ∧
        Sample.oneInserted.view 1 "recordings" = some Sample.table ∧
        Sample.bothInserted.view 1 "recordings" =
          some (Sample.table.append (Sample.emptyRecording 8))) ∧
      ((Sample.bothInserted.commit 0).1.isOk ∧
        ((Sample.bothInserted.commit 0).2.commit 1).1.isOk) ∧
      Sample.bothCommitted.catalog.get? "recordings" =
        some (Sample.table.append (Sample.emptyRecording 8)) := by decide +kernel
  obtain ⟨_, held⟩ := Server.exists_transaction transactions.1
  obtain ⟨_, otherHeld⟩ := Server.exists_transaction transactions.2
  have inserted : Does "recordings" Sample.bothBegan 0 (.inserted (Sample.emptyRecording 7))
      Sample.oneInserted := .inserted held Sample.table tables.1.1 tables.1.2
  have otherInserted : Does "recordings" Sample.oneInserted 1
      (.inserted (Sample.emptyRecording 8)) Sample.bothInserted :=
    .inserted otherHeld Sample.table tables.2.1 tables.2.2
  have writing := Writing.next (.began rfl) (.next (.began rfl) (.next inserted
    (.next otherInserted (.next (.committed (eq_ok_of_isOk commits.1))
      (.next (.committed (eq_ok_of_isOk commits.2)) (.done _))))))
  exact ⟨_, writing, last, by decide, by decide⟩

/-- Two transactions follow each other, and what is committed has the recordings of both. -/
theorem committed_by_two_writers_in_turn :
    ∃ last, Writing "recordings" Sample.paired
        ([(0, .began), (0, .inserted (Sample.emptyRecording 7))] ++ (0, .committed) ::
          [(1, .began), (1, .inserted (Sample.emptyRecording 8))] ++ [(1, .committed)]) last ∧
      last.catalog.get? "recordings" = some (Sample.table.extend
        [Sample.emptyRecording 7, Sample.emptyRecording 8]) := by
  obtain ⟨transactions, tables, answers⟩ :
      (Sample.firstBegan.connectionState 0 = .inTransaction ∧
        Sample.secondBegan.connectionState 1 = .inTransaction) ∧
      ((Sample.firstBegan.view 0 "recordings" = some Sample.table ∧
        Sample.firstInserted.view 0 "recordings" =
          some (Sample.table.append (Sample.emptyRecording 7))) ∧
        Sample.secondBegan.view 1 "recordings" =
          some (Sample.table.append (Sample.emptyRecording 7)) ∧
        Sample.secondInserted.view 1 "recordings" =
          some ((Sample.table.append (Sample.emptyRecording 7)).append
            (Sample.emptyRecording 8))) ∧
      (Sample.firstInserted.commit 0).1.isOk ∧
      ((Sample.firstInserted.commit 0).2.beginTransaction 1).1.isOk ∧
      (Sample.secondInserted.commit 1).1.isOk := by decide +kernel
  obtain ⟨_, held⟩ := Server.exists_transaction transactions.1
  obtain ⟨_, otherHeld⟩ := Server.exists_transaction transactions.2
  have inserted : Does "recordings" Sample.firstBegan 0 (.inserted (Sample.emptyRecording 7))
      Sample.firstInserted := .inserted held Sample.table tables.1.1 tables.1.2
  have otherInserted : Does "recordings" Sample.secondBegan 1
      (.inserted (Sample.emptyRecording 8)) Sample.secondInserted :=
    .inserted otherHeld _ tables.2.1 tables.2.2
  have writing : Writing "recordings" Sample.paired
      ([(0, .began), (0, .inserted (Sample.emptyRecording 7))] ++ (0, .committed) ::
        [(1, .began), (1, .inserted (Sample.emptyRecording 8))] ++ [(1, .committed)])
      (Sample.secondInserted.commit 1).2 :=
    .next (.began rfl) (.next inserted (.next (.committed (eq_ok_of_isOk answers.1))
      (.next (.began (eq_ok_of_isOk answers.2.1)) (.next otherInserted
        (.next (.committed (eq_ok_of_isOk answers.2.2)) (.done _))))))
  have different : (0 : Nat) ≠ 1 := by decide
  exact ⟨_, writing, committed_by_two_writers different writing (by decide) rfl rfl rfl (by decide)
    (by decide)⟩

end Engine

end RowPayload
