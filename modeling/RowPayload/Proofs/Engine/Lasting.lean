import RowPayload.Proofs.Engine.Numbering

/-!
# What lasts while a transaction goes on

A transaction's tables keep their names and columns for as long as it goes on, and rows are
added to them and changed, but none is removed. The proof goes through what one step does to a
transaction: a statement has written a table it saw, or a handle has set a cell. What these
steps keep holds for as long as the transaction goes on, whatever else the server is asked for;
and a transaction that is over never goes on.
-/

namespace RowPayload.Engine

/-! ## Tables -/

/-- A table goes on as another one, which has the same name and columns, and all of its rows. -/
structure Table.GoesOn (before after : Table) : Prop where
  name : after.name = before.name
  columns : after.columns = before.columns
  rows : ∀ id ∈ before.rows.map TableRow.id, id ∈ after.rows.map TableRow.id

namespace Table

variable {first second third : Table}

/-- A table goes on as it is. -/
theorem GoesOn.refl (table : Table) : table.GoesOn table := ⟨rfl, rfl, fun _ there => there⟩

/-- A table that goes on twice goes on. -/
theorem GoesOn.trans (earlier : first.GoesOn second) (later : second.GoesOn third) :
    first.GoesOn third where
  name := later.name.trans earlier.name
  columns := later.columns.trans earlier.columns
  rows := fun id there => later.rows id (earlier.rows id there)

/-- A table goes on with other rows that have the same numbers. -/
theorem GoesOn.of_ids {table : Table} {rows : List TableRow}
    (ids : rows.map TableRow.id = table.rows.map TableRow.id) :
    table.GoesOn { table with rows := rows } :=
  ⟨rfl, rfl, fun _ there => ids ▸ there⟩

/-- A table goes on when a cell is set. -/
theorem goesOn_setCell (table : Table) (id column : Nat) (value : Value) :
    table.GoesOn (table.setCell id column value) :=
  .of_ids (TableRow.map_assign_if TableRow.id TableRow.id_assign _ _ _ _)

/-- A table goes on when a row is inserted. -/
theorem goesOn_insert {table grown : Table} {values : List Value}
    (inserted : table.insert values = .ok grown) : table.GoesOn grown := by
  unfold Table.insert at inserted
  split at inserted
  · cases inserted
  · cases inserted
    refine ⟨rfl, rfl, fun id there => ?_⟩
    rw [List.map_append]
    exact List.mem_append_left _ there

/-- A row that is there is found under its number. -/
theorem exists_row? {table : Table} {id : Nat} (there : id ∈ table.rows.map TableRow.id) :
    ∃ row, table.row? id = some row := by
  obtain ⟨row, member, numbered⟩ := List.mem_map.1 there
  have found : (table.row? id).isSome := List.find?_isSome.2 ⟨row, member, by simp [numbered]⟩
  exact Option.isSome_iff_exists.1 found

/-- A row that is found is there. -/
theorem mem_ids_of_row? {table : Table} {id : Nat} {row : TableRow}
    (found : table.row? id = some row) : id ∈ table.rows.map TableRow.id :=
  List.mem_map.2 ⟨row, List.mem_of_find?_eq_some found, id_of_row? found⟩

/-- A table that goes on has its payloads in the same column. -/
theorem GoesOn.payloadIndex? (goesOn : first.GoesOn second) :
    second.payloadIndex? = first.payloadIndex? := by
  rw [Table.payloadIndex?, Table.payloadIndex?, goesOn.columns]

end Table

/-- A table goes on as what a statement writes in its place. -/
theorem Scene.goesOn_of_run {scene : Scene} {statement : Sql.Statement} {effect : Effect}
    {file : String} {before after : Table} (ran : scene.run statement = .ok effect)
    (written : effect.written = some (file, after)) (seen : scene.table? file = some before) :
    before.GoesOn after := by
  rcases run_cases ran with ⟨_, _, _, inserted⟩ | ⟨_, _, _, updated⟩ | ⟨outcome, rfl⟩
  · obtain ⟨target, cells, grown, found, -, grows, rfl⟩ := insert_ok inserted
    cases written
    rw [table?_of_table found] at seen
    cases seen
    exact Table.goesOn_insert grows
  · obtain ⟨target, cells, marked, found, -, rows, rfl⟩ := update_ok updated
    dsimp only at written
    split at written
    · cases written
    · cases written
      rw [table?_of_table found] at seen
      cases seen
      refine .of_ids ?_
      rw [TableRow.map_assign_if TableRow.id TableRow.id_assign, ← rows, List.map_map]
      rfl
  · cases written

/-! ## Transactions -/

namespace Transaction

/-- A step of a transaction in progress. -/
inductive Step : Transaction → Transaction → Prop where
  /-- A statement has written a table. -/
  | statement {transaction : Transaction} {scene : Scene} {statement : Sql.Statement}
      {effect : Effect} {file : String} {table : Table}
      (sees : scene.table? = transaction.table?) (ran : scene.run statement = .ok effect)
      (written : effect.written = some (file, table)) :
      Step transaction (transaction.writeTable file table)
  /-- A handle was written back. -/
  | cell {transaction changed : Transaction} {address : CellAddress} {value : Value}
      (written : transaction.writeCell? address value = some changed) : Step transaction changed

/-- A transaction goes on as another one: it is the same transaction, and the tables that it saw
go on. -/
structure GoesOn (before after : Transaction) : Prop where
  identity : after.identity = before.identity
  tables : ∀ file table, before.table? file = some table →
    ∃ later, after.table? file = some later ∧ table.GoesOn later

variable {first second third : Transaction}

/-- A transaction goes on as it is. -/
theorem GoesOn.refl (transaction : Transaction) : transaction.GoesOn transaction :=
  ⟨rfl, fun _ table seen => ⟨table, seen, .refl table⟩⟩

/-- A transaction that goes on twice goes on. -/
theorem GoesOn.trans (earlier : first.GoesOn second) (later : second.GoesOn third) :
    first.GoesOn third where
  identity := later.identity.trans earlier.identity
  tables := by
    intro file table seen
    obtain ⟨next, nextSeen, nextGoesOn⟩ := earlier.tables file table seen
    obtain ⟨last, lastSeen, lastGoesOn⟩ := later.tables file next nextSeen
    exact ⟨last, lastSeen, nextGoesOn.trans lastGoesOn⟩

/-- A transaction goes on when it writes a table in whose place it saw one that goes on as it. -/
theorem goesOn_writeTable {transaction : Transaction} {file : String} {written : Table}
    (goesOn : ∀ table, transaction.table? file = some table → table.GoesOn written) :
    transaction.GoesOn (transaction.writeTable file written) where
  identity := transaction.identity_writeTable file written
  tables := by
    intro name table seen
    rw [table?_writeTable]
    by_cases here : name = file
    · subst here
      exact ⟨written, if_pos rfl, goesOn table seen⟩
    · exact ⟨table, by rw [if_neg here, seen], .refl table⟩

/-- A transaction goes on with every step. -/
theorem Step.goesOn (step : Step first second) : first.GoesOn second := by
  cases step with
  | statement sees ran written =>
    exact goesOn_writeTable fun table seen => Scene.goesOn_of_run ran written (sees ▸ seen)
  | cell written =>
    simp only [writeCell?, Option.bind_eq_bind, Option.bind_eq_some_iff] at written
    obtain ⟨table, known, row, -, equal⟩ := written
    cases equal
    refine goesOn_writeTable fun other found => ?_
    rw [known] at found
    cases found
    exact table.goesOn_setCell row.id _ _

end Transaction

/-! ## Servers -/

namespace Server

/-- The transaction with a number that was begun on a connection has a property, unless it is
over. -/
structure Lasting (id number : Nat) (property : Transaction → Prop) (server : Server) : Prop where
  given : number < server.transactions
  holds : ∀ transaction, server.connection id = .inTransaction transaction →
    transaction.number = number → property transaction

namespace Lasting

variable {id number : Nat} {property : Transaction → Prop} {server after : Server}

/-- Only the state of the connection and the number of transactions bear on what lasts. -/
theorem of_connection (lasting : server.Lasting id number property)
    (connection : after.connection id = server.connection id)
    (transactions : after.transactions = server.transactions) :
    after.Lasting id number property where
  given := transactions ▸ lasting.given
  holds := connection ▸ lasting.holds

/-- A connection may be put into any state whose transaction, if it is the one, has the
property. -/
theorem setConnection (lasting : server.Lasting id number property) {other : Nat}
    (alive : server.connection other ≠ .closed) {state : Connection}
    (held : ∀ transaction, state = .inTransaction transaction → other = id →
      transaction.number = number → property transaction) :
    (server.setConnection other state).Lasting id number property where
  given := lasting.given
  holds := by
    intro transaction found same
    rw [connection_setConnection alive] at found
    split at found
    · rename_i here
      exact held transaction found here.symm same
    · exact lasting.holds transaction found same

/-- What every step of a transaction keeps lasts, whatever changes. -/
theorem change (lasting : server.Lasting id number property)
    (kept : ∀ {before later : Transaction}, property before → before.Step later → property later)
    {subject : Subject} (change : Change subject server after) :
    after.Lasting id number property := by
  cases change with
  | recount _ connections _ transactions =>
    exact lasting.of_connection (by rw [connection, connection, connections]) transactions
  | createTable | openPayload | setHandle | free => exact lasting.of_connection rfl rfl
  | connect =>
    exact ⟨lasting.given, fun transaction held =>
      lasting.holds transaction (inTransaction_of_add held)⟩
  | @begin _ other ready =>
    have alive : server.connection other ≠ .closed := by simp [ready]
    have counted : Lasting id number property
        { server with transactions := server.transactions + 1 } :=
      ⟨Nat.lt_succ_of_lt lasting.given, lasting.holds⟩
    refine counted.setConnection alive ?_
    rintro _ ⟨⟩ - same
    exact absurd same (Nat.ne_of_gt lasting.given)
  | leave alive idle =>
    exact lasting.setConnection alive fun transaction held => absurd held (idle transaction)
  | @commit _ other _ held =>
    have alive : server.connection other ≠ .closed := by simp [held]
    have ended : (server.setConnection other .ready).Lasting id number property :=
      lasting.setConnection alive fun _ equal => Connection.noConfusion equal
    exact ended.of_connection rfl rfl
  | release other =>
    exact ⟨lasting.given, fun transaction held =>
      lasting.holds transaction (inTransaction_of_release held)⟩
  | @statement _ other alive parameters _ _ ran file table written =>
    cases connected : server.connection other with
    | closed => exact absurd connected alive
    | ready => exact lasting.of_connection rfl rfl
    | inTransaction transaction =>
      rw [connected] at ran
      refine lasting.setConnection alive ?_
      rintro _ ⟨⟩ rfl same
      exact kept (lasting.holds transaction connected same) (.statement rfl ran written)
  | @writeCell _ _ handle transaction changed _ held _ _ written =>
    refine lasting.setConnection (by simp [held]) ?_
    rintro _ ⟨⟩ rfl same
    have number : changed.number = transaction.number :=
      congrArg Prod.fst (Transaction.identity_writeCell? written)
    exact kept (lasting.holds transaction held (number ▸ same)) (.cell written)

/-- What every step of a transaction keeps lasts, whatever a server is asked for. -/
theorem serve (lasting : server.Lasting id number property)
    (kept : ∀ {before later : Transaction}, property before → before.Step later → property later)
    (request : Request) : (request.serve server).Lasting id number property :=
  keeps_changes (changes_serve server request) lasting fun change lasting =>
    lasting.change kept change

/-- A transaction that has gone on from an earlier one goes on, whatever a server is asked for. -/
theorem serve_goesOn {first : Transaction} (lasting : server.Lasting id number first.GoesOn)
    (request : Request) : (request.serve server).Lasting id number first.GoesOn :=
  lasting.serve (fun earlier step => earlier.trans step.goesOn) request

/-- A transaction that is over never goes on, whatever a server is asked for. -/
theorem serve_ended (ended : server.Lasting id number fun _ => False) (request : Request) :
    (request.serve server).Lasting id number fun _ => False :=
  ended.serve (fun impossible _ => impossible) request

end Lasting

/-- What a transaction in progress sees lasts from here. -/
theorem Numbered.lasting {server : Server} (numbered : server.Numbered) {id : Nat}
    {transaction : Transaction} (held : server.connection id = .inTransaction transaction) :
    server.Lasting id transaction.number transaction.GoesOn where
  given := numbered.transactions id transaction held
  holds := by
    intro later laterHeld _
    rw [held] at laterHeld
    cases laterHeld
    exact .refl transaction

end Server

end RowPayload.Engine
