import RowPayload.Proofs.Engine.InPlace

/-!
# Queries

Whether a statement selects is only known once it has run. So a statement that is queried and
turns out not to select has done all that executing it does before it is refused. Every other
query, answered or failed, only reads: the server differs in two counts afterwards, and run
store by store the query has stored nothing.
-/

namespace RowPayload

namespace Engine.Server

open Sql (Statement)

variable {server : Server} {id : Nat} {command : Command}

/-- Run a query store by store. -/
def queryStores (server : Server) (id : Nat) (command : Command) : Work Failure Bench ResultSet :=
  match server.connection id with
  | .closed => throw .connectionClosed
  | state => do
    let statement ← liftM ((Sql.parse command.sql).mapError Failure.badSyntax)
    match ← Bench.run command.parameters (server.scene state []).token statement with
    | .rows result => return result
    | .affected _ => throw .statementQueried

/-- On an open connection a query is run store by store once it is parsed. -/
theorem queryStores_of_alive (alive : server.connection id ≠ .closed) (command : Command) :
    server.queryStores id command = (do
      let statement ← liftM ((Sql.parse command.sql).mapError Failure.badSyntax)
      match ← Bench.run command.parameters
          (server.scene (server.connection id) []).token statement with
      | .rows result => return result
      | .affected _ => throw .statementQueried) := by
  unfold queryStores
  split
  · rename_i closed
    exact absurd closed alive
  · rfl

/-- A query that was parsed is run store by store right away. -/
theorem queryStores_of_parse (alive : server.connection id ≠ .closed) {statement : Statement}
    (parsed : Sql.parse command.sql = .ok statement) :
    server.queryStores id command = (do
      match ← Bench.run command.parameters
          (server.scene (server.connection id) []).token statement with
      | .rows result => return result
      | .affected _ => throw .statementQueried) := by
  rw [queryStores_of_alive alive, parsed]
  rfl

/-- Store by store a statement of an open connection answers what it answers apart. -/
theorem RunsOn.perform_run {bench : Bench} (runsOn : server.RunsOn id bench.copy)
    (alive : server.connection id ≠ .closed) (parameters : List Parameter) (statement : Statement) :
    (Bench.run parameters (server.scene (server.connection id) []).token statement).perform bench =
      bench.apart ((server.scene (server.connection id) parameters).run statement) := by
  rw [Bench.perform_run, runsOn.scene_eq alive]

/-- How running a statement ends, and the server it leaves. -/
inductive RunEnds (server : Server) (id : Nat) (command : Command) :
    Except Failure Outcome → Server → Prop where
  | closed (closed : server.connection id = .closed) :
      RunEnds server id command (.error .connectionClosed) server
  | unreadable (alive : server.connection id ≠ .closed) {fault : Sql.SyntaxFault}
      (parsed : Sql.parse command.sql = .error fault) :
      RunEnds server id command (.error (.badSyntax fault)) server
  | failing (alive : server.connection id ≠ .closed) {statement : Statement} {failure : Failure}
      (parsed : Sql.parse command.sql = .ok statement)
      (ran : (server.scene (server.connection id) command.parameters).run statement =
        .error failure) :
      RunEnds server id command (.error failure) (server.countStatement 0 0)
  | done (alive : server.connection id ≠ .closed) {statement : Statement} {effect : Effect}
      (parsed : Sql.parse command.sql = .ok statement)
      (ran : (server.scene (server.connection id) command.parameters).run statement = .ok effect) :
      RunEnds server id command (.ok effect.outcome) ((server.absorb id (server.connection id)
        effect.written).countStatement effect.inserted effect.updated)

/-- Running a statement ends in one of these ways. -/
theorem runEnds (server : Server) (id : Nat) (command : Command) :
    server.RunEnds id command (server.run id command).1 (server.run id command).2 := by
  by_cases closed : server.connection id = .closed
  · have refused : server.run id command = (.error .connectionClosed, server) := by
      rw [Server.run, closed]
    rw [refused]
    exact .closed closed
  cases parsed : Sql.parse command.sql with
  | error fault =>
    rw [run_of_alive closed, runOpen, parsed]
    exact .unreadable closed parsed
  | ok statement =>
    rw [run_of_parse closed parsed]
    cases ran : (server.scene (server.connection id) command.parameters).run statement with
    | error failure => exact .failing closed parsed ran
    | ok effect => exact .done closed parsed ran

/-- A query has only read: it was counted, perhaps as a statement too, and that is all that the
server differs in. -/
def OnlyRead (before after : Server) : Prop :=
  ∃ statements, after = { before with counters := { before.counters with
    statements
    queries := before.counters.queries + 1 } }

/-- **A query only reads, or has been executed and is refused.** Whether it answers rows or fails,
a query stores nothing and is only counted, except when it is refused because its statement does
not select: then all has been done that executing the statement does. -/
theorem query_reads_or_executes (server : Server) (id : Nat) (command : Command) :
    (OnlyRead server (server.query id command).2 ∧
      ∀ bench : Bench, server.RunsOn id bench.copy →
        (server.queryStores id command).perform bench = ((server.query id command).1, bench)) ∨
    ((server.query id command).1 = .error .statementQueried ∧
      ∃ rows, server.countQuery.execute id command = (.ok rows, (server.query id command).2)) := by
  have ends := runEnds server.countQuery id command
  rw [query, execute]
  generalize server.countQuery.run id command = ran at ends
  obtain ⟨answer, after⟩ := ran
  cases ends with
  | closed closed =>
    refine .inl ⟨⟨server.counters.statements, rfl⟩, fun bench _ => ?_⟩
    replace closed : server.connection id = .closed := closed
    simp only [queryStores, closed]
    rfl
  | unreadable alive parsed =>
    refine .inl ⟨⟨server.counters.statements, rfl⟩, fun bench _ => ?_⟩
    replace alive : server.connection id ≠ .closed := alive
    rw [queryStores_of_alive alive, parsed]
    rfl
  | failing alive parsed ran =>
    refine .inl ⟨⟨server.counters.statements + 1, rfl⟩, fun bench runsOn => ?_⟩
    replace alive : server.connection id ≠ .closed := alive
    replace ran : (server.scene (server.connection id) command.parameters).run _ = .error _ := ran
    rw [queryStores_of_parse alive parsed, Work.perform_bind, runsOn.perform_run alive, ran]
    rfl
  | @done alive _ effect parsed ran =>
    cases answered : effect.outcome with
    | affected rows => exact .inr ⟨rfl, rows, rfl⟩
    | rows result =>
      obtain rfl := eq_reading_of_rows ran answered
      refine .inl ⟨⟨server.counters.statements + 1, rfl⟩, fun bench runsOn => ?_⟩
      replace alive : server.connection id ≠ .closed := alive
      replace ran : (server.scene (server.connection id) command.parameters).run _ = .ok _ := ran
      rw [queryStores_of_parse alive parsed, Work.perform_bind, runsOn.perform_run alive, ran]
      cases answered
      rfl

/-- A query that is refused has inserted a recording: into the committed tables outside a
transaction, and within one into a table that committing publishes. -/
theorem refused_query_inserts :
    ((Sample.connected.query 0 (Sample.insertion 7)).1 = .error .statementQueried ∧
      Sample.connected.rowCount "Recordings" = 0 ∧
      (Sample.connected.query 0 (Sample.insertion 7)).2.rowCount "Recordings" = 1 ∧
      Sample.connected.counters.inserts = 0 ∧
      (Sample.connected.query 0 (Sample.insertion 7)).2.counters.inserts = 1) ∧
    ∃ begun : Server, Sample.connected.beginTransaction 0 = (.ok (), begun) ∧
      (begun.query 0 (Sample.insertion 7)).1 = .error .statementQueried ∧
      (begun.commit 0).2.rowCount "Recordings" = 0 ∧
      ((begun.query 0 (Sample.insertion 7)).2.commit 0).2.rowCount "Recordings" = 1 := by
  have refused : (Sample.connected.query 0 (Sample.insertion 7)).1 = .error .statementQueried :=
    eq_error_of_failure? (by decide +kernel)
  have refusedWithin : ((Sample.connected.beginTransaction 0).2.query 0 (Sample.insertion 7)).1 =
      .error .statementQueried :=
    eq_error_of_failure? (by decide +kernel)
  refine ⟨⟨refused, ?_⟩, (Sample.connected.beginTransaction 0).2, rfl, refusedWithin, ?_⟩
  · decide +kernel
  · decide +kernel

end Engine.Server

end RowPayload
