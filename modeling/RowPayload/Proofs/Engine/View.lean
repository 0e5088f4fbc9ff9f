import RowPayload.Proofs.Engine.Reachable
import RowPayload.Proofs.Engine.Statements

/-!
# What a connection sees

A connection sees the committed tables, or those of its transaction while it is in one. A
statement changes what its own connection sees in one table at most, and within a
transaction it changes nothing that is committed.
-/

namespace RowPayload.Engine.Server

/-- The tables that a connection sees, by the names they are filed under. -/
def view (server : Server) (id : Nat) : String → Option Table :=
  (server.scene (server.connection id) []).table?

/-- The tables that a connection sees do not depend on parameters. -/
theorem table?_scene (server : Server) (id : Nat) (parameters : List Parameter) :
    (server.scene (server.connection id) parameters).table? = server.view id := by
  unfold view scene
  cases server.connection id <;> rfl

/-- A table that a connection sees is found by its name. -/
theorem table_of_view {server : Server} {id : Nat} {name : String} {table : Table}
    (seen : server.view id (fileName name) = some table) (parameters : List Parameter) :
    (server.scene (server.connection id) parameters).table name = .ok table := by
  rw [Scene.table, table?_scene, seen]

/-- A connection of a sound server sees sound tables. -/
theorem Sound.of_view {server : Server} (sound : server.Sound) {id : Nat} {file : String}
    {table : Table} (seen : server.view id file = some table) : table.Sound :=
  sound.scene rfl [] file table seen

/-- A connection that reports to be in a transaction is in one. -/
theorem exists_transaction {server : Server} {id : Nat}
    (reported : server.connectionState id = .inTransaction) :
    ∃ transaction, server.connection id = .inTransaction transaction := by
  unfold connectionState at reported
  cases connected : server.connection id with
  | closed => simp [connected] at reported
  | ready => simp [connected] at reported
  | inTransaction transaction => exact ⟨transaction, rfl⟩

/-- A transaction that began sees the tables that were committed. -/
theorem connection_begun {server : Server} {id : Nat}
    (done : (server.beginTransaction id).1 = .ok ()) :
    (server.beginTransaction id).2.connection id =
      .inTransaction (.start server.secret server.transactions server.catalog) := by
  unfold beginTransaction at done ⊢
  cases connected : server.connection id with
  | closed =>
    rw [connected] at done
    cases done
  | inTransaction transaction =>
    rw [connected] at done
    cases done
  | ready =>
    rw [connected] at done
    dsimp only at done ⊢
    split at done
    · cases done
    · rename_i granted
      rw [if_neg granted]
      have alive : server.connection id ≠ .closed := by simp [connected]
      show (server.setConnection id _).connection id = _
      rw [connection_setConnection alive, if_pos rfl]

/-- The parameters a statement binds are those of its command. -/
theorem parameters_scene (server : Server) (state : Connection) (parameters : List Parameter) :
    (server.scene state parameters).parameters = parameters := by
  cases state <;> rfl

/-- All that has changed is that a connection sees another table under a name. -/
structure TableChanged (before after : Server) (id : Nat) (file : String) (table : Table) :
    Prop where
  /-- Under the name there is the table, and under the others what was there before. -/
  view : ∀ name, after.view id name = if name = file then some table else before.view id name
  /-- Within a transaction nothing is committed. -/
  catalog : ∀ transaction, before.connection id = .inTransaction transaction →
    after.catalog = before.catalog
  /-- The other connections are in the same state. -/
  connections : ∀ other, other ≠ id → after.connection other = before.connection other
  /-- The connection is in a transaction if it was in one. -/
  inTransaction : ∀ transaction, before.connection id = .inTransaction transaction →
    ∃ later, after.connection id = .inTransaction later
  /-- The payload handles are the same. -/
  handles : after.handles = before.handles

/-- A server that was only counted on has a table changed to what it is. -/
theorem tableChanged_same {server : Server} {id : Nat} {file : String} {table : Table}
    (seen : server.view id file = some table) (inserted updated : Nat) :
    TableChanged server (server.countStatement inserted updated) id file table where
  view := by
    intro name
    show server.view id name = _
    split
    · rename_i same
      rw [same, seen]
    · rfl
  catalog := fun _ _ => rfl
  connections := fun _ _ => rfl
  inTransaction := fun transaction held => ⟨transaction, held⟩
  handles := rfl

/-- A table that a statement has written is all that has changed. -/
theorem tableChanged_absorb {server : Server} {id : Nat} (alive : server.connection id ≠ .closed)
    (file : String) (table : Table) (inserted updated : Nat) :
    TableChanged server ((server.absorb id (server.connection id)
      (some (file, table))).countStatement inserted updated) id file table := by
  cases connected : server.connection id with
  | closed => exact absurd connected alive
  | ready =>
    constructor
    case view =>
      intro name
      have later : (countStatement { server with catalog := server.catalog.insert file table }
          inserted updated).connection id = .ready := connected
      show (countStatement { server with catalog := server.catalog.insert file table }
        inserted updated).view id name = _
      rw [view, view, later, connected]
      exact OrderedMap.get?_insert server.catalog file name table
    case catalog =>
      intro transaction held
      rw [connected] at held
      cases held
    case connections =>
      intro other _
      rfl
    case inTransaction =>
      intro transaction held
      rw [connected] at held
      cases held
    case handles => rfl
  | inTransaction transaction =>
    have put (other : Nat) : (server.setConnection id
        (.inTransaction (transaction.writeTable file table))).connection other =
          if other = id then .inTransaction (transaction.writeTable file table)
          else server.connection other :=
      connection_setConnection alive _ other
    have own : (countStatement (server.setConnection id
        (.inTransaction (transaction.writeTable file table))) inserted updated).connection id =
          .inTransaction (transaction.writeTable file table) := by
      rw [countStatement, connection_count, put, if_pos rfl]
    constructor
    case view =>
      intro name
      show (countStatement (server.setConnection id
        (.inTransaction (transaction.writeTable file table))) inserted updated).view id name = _
      rw [view, view, own, connected]
      exact Transaction.table?_writeTable transaction file name table
    case catalog =>
      intro _ _
      rfl
    case connections =>
      intro other different
      show (server.setConnection id _).connection other = _
      rw [put, if_neg different]
    case inTransaction =>
      intro _ _
      exact ⟨_, own⟩
    case handles => rfl

/-! ## Statements that affect rows -/

section

variable {server after : Server} {id : Nat} {command : Command} {statement : Sql.Statement}

/-- A statement on an open connection is parsed and run. -/
theorem run_of_parse (alive : server.connection id ≠ .closed)
    (parsed : Sql.parse command.sql = .ok statement) :
    server.run id command =
      match (server.scene (server.connection id) command.parameters).run statement with
      | .error failure => (.error failure, server.countStatement 0 0)
      | .ok effect =>
        (.ok effect.outcome, (server.absorb id (server.connection id)
          effect.written).countStatement effect.inserted effect.updated) := by
  rw [run_of_alive alive]
  unfold runOpen
  cases ran : (server.scene (server.connection id) command.parameters).run statement with
  | error failure => simp only [parsed, ran]
  | ok effect => simp only [parsed, ran]

/-- A statement that answers was parsed and run. -/
theorem run_ok {outcome : Outcome} (done : server.run id command = (.ok outcome, after)) :
    ∃ statement effect, server.connection id ≠ .closed ∧
      Sql.parse command.sql = .ok statement ∧
      (server.scene (server.connection id) command.parameters).run statement = .ok effect ∧
      effect.outcome = outcome ∧
      after = (server.absorb id (server.connection id) effect.written).countStatement
        effect.inserted effect.updated := by
  have alive : server.connection id ≠ .closed := by
    intro closed
    rw [run, closed] at done
    cases done
  cases parsed : Sql.parse command.sql with
  | error fault =>
    unfold run at done
    split at done
    · cases done
    · simp [runOpen, parsed] at done
  | ok statement =>
    rw [run_of_parse alive parsed] at done
    cases ran : (server.scene (server.connection id) command.parameters).run statement with
    | error failure =>
      rw [ran] at done
      cases done
    | ok effect =>
      rw [ran] at done
      cases done
      exact ⟨statement, effect, alive, rfl, ran, rfl, rfl⟩

/-- A statement that was executed was parsed and run. -/
theorem execute_cases {count : Nat} (done : server.execute id command = (.ok count, after)) :
    ∃ statement effect, server.connection id ≠ .closed ∧
      Sql.parse command.sql = .ok statement ∧
      (server.scene (server.connection id) command.parameters).run statement = .ok effect ∧
      after = (server.absorb id (server.connection id) effect.written).countStatement
        effect.inserted effect.updated := by
  unfold execute at done
  split at done
  · cases done
  · rename_i ran
    cases done
    obtain ⟨statement, effect, alive, parsed, ran, -, same⟩ := run_ok ran
    exact ⟨statement, effect, alive, parsed, ran, same⟩
  · cases done

/-- A query that was answered was parsed and run, answered what it selects and only counted. -/
theorem query_cases {result : ResultSet} (done : server.query id command = (.ok result, after)) :
    (∃ change, after = server.count change) ∧
      ∃ statement effect, Sql.parse command.sql = .ok statement ∧
        (server.scene (server.connection id) command.parameters).run statement = .ok effect ∧
        effect.outcome = .rows result := by
  unfold query at done
  split at done
  · cases done
  · rename_i ran
    cases done
    obtain ⟨statement, effect, -, parsed, ran, outcome, same⟩ := run_ok ran
    rw [Scene.written_of_rows ran outcome] at same
    obtain ⟨change, counted⟩ : ∃ change, after = server.countQuery.count change := ⟨_, same⟩
    have both : after = server.count fun counters =>
        change { counters with queries := counters.queries + 1 } := counted
    exact ⟨⟨_, both⟩, statement, effect, parsed, ran, outcome⟩
  · cases done

/-- A selection that is asked for is answered, and the server only counts it. -/
theorem query_ok {query : Sql.Select} {result : ResultSet} (alive : server.connection id ≠ .closed)
    (parsed : Sql.parse command.sql = .ok (.select query))
    (selected : (server.scene (server.connection id) command.parameters).select query =
      .ok result) :
    ∃ change, server.query id command = (.ok result, server.count change) := by
  have ran : (server.countQuery.scene (server.countQuery.connection id)
      command.parameters).run (.select query) = .ok (.reading (.rows result)) := by
    rw [Scene.run]
    show ((server.scene (server.connection id) command.parameters).select query).map _ = _
    rw [selected]
    rfl
  have stillAlive : server.countQuery.connection id ≠ .closed := alive
  refine ⟨fun counters => { counters with
    queries := counters.queries + 1
    statements := counters.statements + 1 }, ?_⟩
  rw [Server.query, run_of_parse stillAlive parsed, ran]
  rfl

/-- Counting a statement counts the rows it has inserted. -/
theorem inserts_countStatement (id : Nat) (connection : Connection)
    (written : Option (String × Table)) (inserted updated : Nat) :
    ((server.absorb id connection written).countStatement inserted updated).counters.inserts =
      server.counters.inserts + inserted := by
  cases written with
  | none => rfl
  | some entry => cases connection <;> rfl

/-- A statement that writes answers the number of rows it affected. -/
theorem execute_ok (alive : server.connection id ≠ .closed)
    (parsed : Sql.parse command.sql = .ok statement) {effect : Effect} {count : Nat}
    (ran : (server.scene (server.connection id) command.parameters).run statement = .ok effect)
    (outcome : effect.outcome = .affected count) :
    server.execute id command = (.ok count, (server.absorb id (server.connection id)
      effect.written).countStatement effect.inserted effect.updated) := by
  rw [execute, run_of_parse alive parsed, ran]
  dsimp only
  rw [outcome]

/-- A statement that fails has only been counted. -/
theorem execute_error (alive : server.connection id ≠ .closed)
    (parsed : Sql.parse command.sql = .ok statement) {failure : Failure}
    (ran : (server.scene (server.connection id) command.parameters).run statement =
      .error failure) :
    server.execute id command = (.error failure, server.countStatement 0 0) := by
  rw [execute, run_of_parse alive parsed, ran]

/-- Where a statement leads, executing it leads: to the answer told, and to a server on which
the table told is all that has changed. -/
theorem execute_leadsTo (alive : server.connection id ≠ .closed)
    (parsed : Sql.parse command.sql = .ok statement) {file : String} {table : Table}
    (seen : server.view id file = some table) {told : Except Failure Nat → Table → Prop}
    (leads : (server.scene (server.connection id) command.parameters).LeadsTo statement file table
      told) :
    ∃ after, told (server.execute id command).1 after ∧
      TableChanged server (server.execute id command).2 id file after := by
  rcases leads with ⟨effect, count, after, ran, outcome, holds, written⟩ | ⟨failure, ran, holds⟩
  · rw [execute_ok alive parsed ran outcome]
    refine ⟨after, holds, ?_⟩
    rcases written with written | ⟨written, rfl⟩
    · rw [written]
      exact tableChanged_absorb alive file after effect.inserted effect.updated
    · rw [written]
      exact tableChanged_same seen effect.inserted effect.updated
  · rw [execute_error alive parsed ran]
    exact ⟨table, holds, tableChanged_same seen 0 0⟩

end

/-! ## Payloads that open -/

/-- The payload that a path leads to in a transaction opens with the token of the transaction. -/
theorem openPayload_of_payload? {server : Server} {id : Nat} {transaction : Transaction}
    {path : String} {address : CellAddress} {content : Bytes}
    (held : server.connection id = .inTransaction transaction)
    (led : transaction.payload? path = some (address, content)) (access : Access) :
    server.openPayload id path transaction.token access = (.ok server.handles.next,
      { server with handles := (server.handles.add ⟨id, transaction.number, address,
          .ofContent content, access, false, true⟩).2 }.count fun counters =>
        { counters with payloadsOpened := counters.payloadsOpened + 1 }) := by
  simp only [openPayload, held, led, ne_eq, not_true_eq_false, if_false]
  rfl

/-- A payload that opens is that of a row which the transaction sees, and the handle holds
its bytes. -/
theorem openPayload_ok {server after : Server} {id : Nat} {path : String} {token : Bytes}
    {access : Access} {number : Nat}
    (opened : server.openPayload id path token access = (.ok number, after)) :
    ∃ transaction address content, server.connection id = .inTransaction transaction ∧
      transaction.payload? path = some (address, content) ∧
      after.connections = server.connections ∧ after.catalog = server.catalog ∧
      number < after.handles.next ∧ after.handles.get? number = some
        ⟨id, transaction.number, address, .ofContent content, access, false, true⟩ := by
  unfold openPayload at opened
  split at opened
  · simp at opened
  · simp at opened
  · rename_i transaction held
    split at opened
    · simp at opened
    · split at opened
      · simp at opened
      · rename_i address content found
        cases opened
        refine ⟨transaction, address, content, held, found, rfl, rfl, Nat.lt_succ_self _, ?_⟩
        show (server.handles.add _).2.get? server.handles.next = _
        rw [Slots.get?_add, if_pos rfl]

end RowPayload.Engine.Server
