import RowPayload.Proofs.Engine.Filing
import RowPayload.Proofs.Engine.Numbering
import RowPayload.Proofs.Engine.Statements
import RowPayload.Proofs.Sample

/-!
# Keys

Inserting a row checks that no other has its key. Assigning to the key column of rows that are
there checks nothing, so an update can give two rows one key. It is the only way: as long as no
update assigns to a key column, no two rows of a table have equal keys, neither in a committed
table nor in one that a transaction sees. Handles write to the cell of a payload, and payloads
are never keys.
-/

namespace RowPayload

/-! ## Equality -/

/-- Equality of floating-point numbers is symmetric. -/
theorem Number.Format.same_comm (format : Format) (left right : Nat) :
    format.same left right = format.same right left := by
  unfold same
  cases format.decode left <;> cases format.decode right <;> grind

/-- Equality of decimals is symmetric. -/
theorem Number.Decimal.same_comm (left right : Decimal) : left.same right = right.same left :=
  BEq.comm

/-- Equality of values of one type is symmetric. -/
theorem Value.same_comm (left right : Value) : left.same right = right.same left := by
  cases left <;> cases right <;>
    first
    | exact Number.Format.same_comm _ _ _
    | exact Number.Decimal.same_comm _ _
    | exact BEq.comm

/-- Equality as SQL sees it is symmetric. -/
theorem Value.sqlEqual_comm (left right : Value) : left.sqlEqual right = right.sqlEqual left := by
  unfold sqlEqual
  rw [Bool.or_comm]
  cases left.integer? <;> cases right.integer? <;> simp only [same_comm left right, BEq.comm]

namespace Engine

open Sql (Operand Condition Statement)

/-! ## Tables -/

/-- A table made column by column. -/
inductive Table.Built : Table → Prop where
  | empty (name : String) : Built (.empty name)
  | withColumn {table : Table} (built : Built table) (name : String) :
      Built (table.withColumn name)
  | withKey {table : Table} (built : Built table) (name : String) : Built (table.withKey name)
  | withPayload {table : Table} (built : Built table) (name : String) :
      Built (table.withPayload name)

/-- Assigning to other cells leaves a cell as it was. -/
theorem TableRow.cell_assign_other {cells : List (Nat × Value)} {column : Nat}
    (other : ∀ cell ∈ cells, cell.1 ≠ column) (row : TableRow) :
    (row.assign cells).cell column = row.cell column := by
  simp only [TableRow.cell, TableRow.assign]
  generalize row.values = values
  induction cells generalizing values with
  | nil => rfl
  | cons cell rest inductionHypothesis =>
    obtain ⟨different, others⟩ := List.forall_mem_cons.1 other
    rw [List.foldl_cons, inductionHypothesis others]
    simp [List.getD_eq_getElem?_getD, different]

namespace Table

/-- The key of a table, if it has one, is a column for scalars. -/
def ScalarKey (table : Table) : Prop :=
  ∀ key, table.key = some key → (table.columns[key]?).map TableColumn.isPayload = some false

/-- No two rows of a table have equal keys. -/
def UniqueKeys (table : Table) : Prop :=
  ∀ key, table.key = some key → table.rows.Pairwise fun first second =>
    (first.cell key).sqlEqual (second.cell key) = false ∧
      (second.cell key).sqlEqual (first.cell key) = false

variable {table : Table}

/-- The key of a table made column by column is a column for scalars. -/
theorem Built.scalarKey (built : table.Built) : table.ScalarKey := by
  have further {table : Table} (scalar : table.ScalarKey) (added : TableColumn) :
      ScalarKey { table with columns := table.columns ++ [added] } := by
    intro key keyed
    have old := scalar key keyed
    obtain ⟨column, found, _⟩ := Option.map_eq_some_iff.1 old
    have inside := (List.getElem?_eq_some_iff.1 found).1
    dsimp only
    rwa [List.getElem?_append_left inside]
  induction built with
  | empty => exact nofun
  | withColumn _ _ inductionHypothesis => exact further inductionHypothesis _
  | @withKey table _ name _ =>
    rintro key ⟨⟩
    have last : (table.columns ++ [⟨name, false⟩])[table.columns.length]? = some ⟨name, false⟩ :=
      List.getElem?_concat_length
    exact congrArg (Option.map TableColumn.isPayload) last
  | withPayload _ _ inductionHypothesis => exact further inductionHypothesis _

/-- A table without rows has unique keys. -/
theorem uniqueKeys_of_no_rows (empty : table.rows = []) : table.UniqueKeys := by
  intro key _
  rw [empty]
  exact .nil

/-- Only the values of the key bear on unique keys. -/
theorem UniqueKeys.withRows (unique : table.UniqueKeys) {rows : List TableRow}
    (kept : ∀ key, table.key = some key →
      rows.map (·.cell key) = table.rows.map (·.cell key)) :
    UniqueKeys { table with rows := rows } := by
  intro key keyed
  have old : (table.rows.map (·.cell key)).Pairwise fun first second =>
      first.sqlEqual second = false ∧ second.sqlEqual first = false :=
    List.pairwise_map.2 (unique key keyed)
  rw [← kept key keyed] at old
  exact List.pairwise_map.1 old

/-- Setting a cell that is not in the key column keeps keys unique. -/
theorem UniqueKeys.setCell (unique : table.UniqueKeys) {column : Nat}
    (spared : table.key ≠ some column) (id : Nat) (value : Value) :
    (table.setCell id column value).UniqueKeys := by
  refine unique.withRows fun key keyed => ?_
  have other : ∀ cell ∈ [(column, value)], cell.1 ≠ key :=
    List.forall_mem_singleton.2 fun same => spared (keyed.trans (congrArg some same.symm))
  rw [List.map_map]
  refine List.map_congr_left fun row _ => ?_
  dsimp only [Function.comp]
  split
  · exact TableRow.cell_assign_other other row
  · rfl

/-- A row that is inserted has a new key. -/
theorem UniqueKeys.insert (unique : table.UniqueKeys) {values : List Value} {grown : Table}
    (inserted : table.insert values = .ok grown) : grown.UniqueKeys := by
  unfold Table.insert at inserted
  split at inserted
  · cases inserted
  · rename_i free
    cases inserted
    intro key keyed
    rw [List.pairwise_append]
    refine ⟨unique key keyed, List.pairwise_singleton _ _, ?_⟩
    intro row member last isLast
    obtain rfl := List.mem_singleton.1 isLast
    have different := takenKey?_eq_none free keyed member
    exact ⟨different, (Value.sqlEqual_comm _ _).trans different⟩

end Table

/-! ## Statements -/

end Engine

/-- The tables that a statement may update, with the assignments. -/
def Sql.Statement.updates : Statement → List (String × List (String × Operand))
  | .insert _ _ _ | .select _ => []
  | .update table assignments _ => [(table, assignments)]
  | .conditional _ _ body => body.updates
  | .branch _ _ body otherwise => body.updates ++ otherwise.updates

namespace Engine

open Sql (Operand Condition Statement)

namespace Scene

variable {scene : Scene} {statement : Statement}

/-- Whether an update of a table leaves the table's key column alone. -/
def sparesKey (scene : Scene) (update : String × List (String × Operand)) : Bool :=
  (scene.table? (fileName update.1)).all fun table => table.key.all fun key =>
    update.2.all fun change => (table.columnIndex change.1).toOption != some key

/-- Whether all updates of a statement leave key columns alone. -/
def sparesKeys (scene : Scene) (statement : Statement) : Bool :=
  statement.updates.all scene.sparesKey

/-- The places that assignments stand for are those of the columns they name. -/
theorem columnIndex_of_resolve {table : Table} {assignments : List (String × Operand)}
    {cells : List (Nat × Value)} (resolved : scene.resolve table assignments = .ok cells) :
    ∀ cell ∈ cells, ∃ change ∈ assignments, table.columnIndex change.1 = .ok cell.1 := by
  induction assignments generalizing cells with
  | nil =>
    cases resolved
    exact nofun
  | cons change rest inductionHypothesis =>
    obtain ⟨column, operand⟩ := change
    rw [resolve] at resolved
    obtain ⟨index, here, resolved⟩ := Checked.bind_ok resolved
    obtain ⟨value, -, resolved⟩ := Checked.bind_ok resolved
    obtain ⟨others, later, resolved⟩ := Checked.bind_ok resolved
    cases resolved
    refine List.forall_mem_cons.2 ⟨⟨_, List.mem_cons_self, here⟩, fun cell member => ?_⟩
    obtain ⟨change, known, found⟩ := inductionHypothesis later cell member
    exact ⟨change, List.mem_cons_of_mem _ known, found⟩

/-- What a statement writes that did not fail: a table with a further row, or one that an
update of the statement assigned cells in. -/
theorem written_cases {effect : Effect} (ran : scene.run statement = .ok effect) {file : String}
    {table : Table} (written : effect.written = some (file, table)) :
    ∃ before, scene.table? file = some before ∧ table.key = before.key ∧
      table.columns = before.columns ∧ ((∃ values, before.insert values = .ok table) ∨
      ∃ update ∈ statement.updates, fileName update.1 = file ∧ ∃ cells,
        ∃ marked : List (TableRow × Bool), scene.resolve before update.2 = .ok cells ∧
          marked.map Prod.fst = before.rows ∧ table = { before with
            rows := marked.map fun (row, matched) => if matched then row.assign cells else row }) := by
  induction statement with
  | insert name columns operands =>
    obtain ⟨before, cells, grown, found, -, grows, rfl⟩ := insert_ok ran
    cases written
    have frame : table.key = before.key ∧ table.columns = before.columns := by
      have grows := grows
      unfold Table.insert at grows
      split at grows <;> cases grows
      exact ⟨rfl, rfl⟩
    exact ⟨before, table?_of_table found, frame.1, frame.2, .inl ⟨_, grows⟩⟩
  | update name assignments filter =>
    obtain ⟨before, cells, marked, found, resolved, rows, rfl⟩ := update_ok ran
    dsimp only at written
    split at written
    · cases written
    · cases written
      exact ⟨before, table?_of_table found, rfl, rfl, .inr ⟨_, List.mem_singleton.2 rfl, rfl, cells,
        marked, resolved, rows, rfl⟩⟩
  | select query =>
    obtain ⟨result, -, rfl⟩ := run_select ran
    cases written
  | conditional negated probe body inductionHypothesis =>
    rw [run] at ran
    obtain ⟨found, -, ran⟩ := Checked.bind_ok ran
    split at ran
    · exact inductionHypothesis ran
    · cases ran
      cases written
  | branch negated probe body otherwise bodyHypothesis otherwiseHypothesis =>
    rw [run] at ran
    obtain ⟨found, -, ran⟩ := Checked.bind_ok ran
    split at ran
    · obtain ⟨before, seen, key, columns, inserted | ⟨update, member, rest⟩⟩ := bodyHypothesis ran
      · exact ⟨before, seen, key, columns, .inl inserted⟩
      · exact ⟨before, seen, key, columns, .inr ⟨update, List.mem_append_left _ member, rest⟩⟩
    · obtain ⟨before, seen, key, columns, inserted | ⟨update, member, rest⟩⟩ :=
        otherwiseHypothesis ran
      · exact ⟨before, seen, key, columns, .inl inserted⟩
      · exact ⟨before, seen, key, columns, .inr ⟨update, List.mem_append_right _ member, rest⟩⟩

/-- A statement that leaves key columns alone writes tables with unique keys. -/
theorem uniqueKeys_of_run
    (unique : ∀ name table, scene.table? name = some table → table.UniqueKeys)
    (spares : scene.sparesKeys statement = true) {effect : Effect}
    (ran : scene.run statement = .ok effect) {file : String} {table : Table}
    (written : effect.written = some (file, table)) : table.UniqueKeys := by
  obtain ⟨before, seen, -, -, ⟨values, inserted⟩ | ⟨update, member, rfl, cells, marked, resolved,
    rows, rfl⟩⟩ := written_cases ran written
  · exact (unique file before seen).insert inserted
  · refine (unique _ before seen).withRows fun key keyed => ?_
    have other : ∀ cell ∈ cells, cell.1 ≠ key := by
      intro cell assigned same
      obtain ⟨change, known, found⟩ := columnIndex_of_resolve resolved cell assigned
      have spared := List.all_eq_true.1 spares update member
      rw [sparesKey, seen, Option.all_some, keyed, Option.all_some] at spared
      have alone := List.all_eq_true.1 spared change known
      simp [found, same, Except.toOption] at alone
    rw [← rows, List.map_map, List.map_map]
    refine List.map_congr_left fun entry _ => ?_
    dsimp only [Function.comp]
    split
    · exact TableRow.cell_assign_other other entry.1
    · rfl

end Scene

/-! ## Servers -/

/-- Whether a command, if it is a statement, leaves key columns alone on a connection. -/
def Server.sparesKeys (server : Server) (id : Nat) (command : Command) : Bool :=
  (Sql.parse command.sql).toOption.all
    (server.scene (server.connection id) command.parameters).sparesKeys

/-- A request files a table made column by column only, and runs only a statement that leaves
key columns alone. -/
def Request.SparesKeys (server : Server) : Request → Prop
  | .createTable table _ => table.Built
  | .execute id command | .query id command => server.sparesKeys id command = true
  | _ => True

/-- The servers that requests lead to that leave key columns alone. -/
inductive Server.KeySparing : Server → Prop where
  | start (secret : Bytes) : KeySparing (.ofSecret secret)
  | serve {server : Server} (reached : KeySparing server) (request : Request)
      (spares : request.SparesKeys server) : KeySparing (request.serve server)

/-- A server that requests lead to that leave key columns alone is reachable. -/
theorem Server.KeySparing.reachable {server : Server} (sparing : server.KeySparing) :
    server.Reachable := by
  induction sparing with
  | start secret => exact .start secret
  | serve _ request _ inductionHypothesis => exact .serve inductionHypothesis request

/-- A handle is not on a cell of a key, as its transaction sees the table. -/
def Handle.SparesKey (handle : Handle) (transaction : Transaction) : Prop :=
  ∀ table, transaction.table? handle.address.table = some table →
    table.key ≠ some handle.address.column

namespace Server

/-- Tables have unique keys, and handles do not lead to them. -/
structure Keyed (server : Server) : Prop where
  tables : server.Tables fun _ table => table.ScalarKey ∧ table.UniqueKeys
  handles : ∀ number handle transaction, server.handles.get? number = some handle →
    server.connection handle.connection = .inTransaction transaction →
    transaction.number = handle.transaction → handle.SparesKey transaction

namespace Keyed

variable {server after : Server}

/-- Only the committed tables, the connections and the handles bear on keys. -/
theorem of_eq (keyed : server.Keyed) (catalog : after.catalog = server.catalog)
    (connections : ∀ id, after.connection id = server.connection id)
    (handles : after.handles = server.handles) : after.Keyed where
  tables := keyed.tables.of_eq catalog connections
  handles := by
    intro number handle transaction found held same
    rw [handles] at found
    rw [connections] at held
    exact keyed.handles number handle transaction found held same

/-- A table with unique keys may be filed. -/
theorem insertTable (keyed : server.Keyed) {file : String} {table : Table}
    (scalar : table.ScalarKey) (unique : table.UniqueKeys) :
    Keyed { server with catalog := server.catalog.insert file table } where
  tables := keyed.tables.insertTable ⟨scalar, unique⟩
  handles := keyed.handles

/-- An open connection may be put into any state in which it sees tables with unique keys and
in which handles of its transaction do not lead to them. -/
theorem setConnection (keyed : server.Keyed) {id : Nat} (alive : server.connection id ≠ .closed)
    {state : Connection} (seen : ∀ transaction, state = .inTransaction transaction →
      ∀ name table, transaction.table? name = some table → table.ScalarKey ∧ table.UniqueKeys)
    (spared : ∀ transaction, state = .inTransaction transaction →
      ∀ number handle, server.handles.get? number = some handle → handle.connection = id →
        transaction.number = handle.transaction → handle.SparesKey transaction) :
    (server.setConnection id state).Keyed where
  tables := keyed.tables.setConnection alive seen
  handles := by
    intro number handle transaction found held same
    rw [connection_setConnection alive] at held
    split at held
    · rename_i here
      exact spared transaction held number handle found here same
    · exact keyed.handles number handle transaction found held same

/-- A connection may be put into a state without a transaction. -/
theorem leave (keyed : server.Keyed) {id : Nat} (alive : server.connection id ≠ .closed)
    {state : Connection} (idle : ∀ transaction, state ≠ .inTransaction transaction) :
    (server.setConnection id state).Keyed :=
  keyed.setConnection alive (fun transaction held => absurd held (idle transaction))
    fun transaction held => absurd held (idle transaction)

/-- A transaction may write a table with unique keys in place of one with the same key. -/
theorem writeTable (keyed : server.Keyed) {id : Nat} {transaction : Transaction}
    (held : server.connection id = .inTransaction transaction) {file : String}
    {before table : Table} (seen : transaction.table? file = some before)
    (key : table.key = before.key) (scalar : table.ScalarKey) (unique : table.UniqueKeys) :
    (server.setConnection id (.inTransaction (transaction.writeTable file table))).Keyed := by
  refine keyed.setConnection (by simp [held]) ?_ ?_
  · rintro _ ⟨⟩
    exact Transaction.holds_writeTable (keyed.tables.transactions id transaction held)
      ⟨scalar, unique⟩
  · rintro _ ⟨⟩ number handle found rfl same later shown
    have spared := keyed.handles number handle transaction found held same
    rw [Transaction.table?_writeTable] at shown
    split at shown
    · rename_i here
      cases shown
      rw [key]
      exact spared before (here ▸ seen)
    · exact spared later shown

/-- A statement that leaves key columns alone keeps keys unique. -/
theorem run (keyed : server.Keyed) {id : Nat} {command : Command}
    (spares : server.sparesKeys id command = true) : (server.run id command).2.Keyed := by
  by_cases closed : server.connection id = .closed
  · simp only [Server.run, closed]
    exact keyed
  rw [run_of_alive closed, runOpen]
  rw [sparesKeys] at spares
  split
  · exact keyed
  · rename_i statement parsed
    rw [parsed] at spares
    split
    · exact keyed.of_eq rfl (fun _ => rfl) rfl
    · rename_i effect ran
      suffices absorbed : (server.absorb id (server.connection id) effect.written).Keyed from
        absorbed.of_eq rfl (fun _ => rfl) rfl
      cases written : effect.written with
      | none => exact keyed
      | some entry =>
        obtain ⟨file, table⟩ := entry
        have tables := keyed.tables.scene id command.parameters
        obtain ⟨before, seen, key, columns, -⟩ := Scene.written_cases ran written
        have scalar : table.ScalarKey := by
          rw [Table.ScalarKey, key, columns]
          exact (tables file before seen).1
        have unique : table.UniqueKeys :=
          Scene.uniqueKeys_of_run (fun name shown found => (tables name shown found).2) spares ran
            written
        cases connected : server.connection id with
        | closed => exact absurd connected closed
        | ready => exact keyed.insertTable scalar unique
        | inTransaction transaction =>
          rw [connected] at seen
          exact keyed.writeTable connected seen key scalar unique

/-- Opening a payload puts a handle on a cell of a payload column. -/
theorem openPayload (keyed : server.Keyed) (id : Nat) (path : String) (token : Bytes)
    (access : Access) : (server.openPayload id path token access).2.Keyed := by
  unfold Server.openPayload
  split
  · exact keyed
  · exact keyed
  · rename_i transaction held
    split
    · exact keyed
    · split
      · exact keyed
      · rename_i address content led
        refine ⟨keyed.tables.of_eq rfl fun _ => rfl, ?_⟩
        intro number handle inside found within same
        rcases Slots.get?_add_cases found with ⟨-, rfl⟩ | old
        · have here : server.connection id = .inTransaction inside := within
          rw [held] at here
          cases here
          intro table seen onKey
          obtain ⟨_, target, _, -, -, present, column, -⟩ := Transaction.payload?_eq_some led
          obtain rfl : table = target := Option.some.inj (seen.symm.trans present)
          have scalar := (keyed.tables.transactions id transaction held _ table present).1
          have isPayload := List.findIdx?_eq_some_iff_getElem.1 column
          obtain ⟨bound, payload, -⟩ := isPayload
          have plain := scalar _ onKey
          rw [List.getElem?_eq_getElem bound, Option.map_some, payload] at plain
          cases plain
        · exact keyed.handles number handle inside old within same

/-- What requests on a payload are made up of keeps keys unique. -/
theorem change (keyed : server.Keyed) {number : Nat}
    (change : Change (.payload number) server after) : after.Keyed := by
  cases change with
  | recount catalog connections handles _ =>
    exact keyed.of_eq catalog (fun id => by rw [connection, connection, connections]) handles
  | @setHandle _ _ old new found connection transaction address =>
    refine ⟨keyed.tables.of_eq rfl fun _ => rfl, ?_⟩
    intro other handle inside shown held same
    rcases Slots.get?_set_cases shown with ⟨-, rfl⟩ | kept
    · have held : server.connection handle.connection = .inTransaction inside := held
      rw [connection] at held
      rw [transaction] at same
      have spared := keyed.handles number old inside found held same
      rwa [Handle.SparesKey, ← address] at spared
    · exact keyed.handles other handle inside kept held same
  | @writeCell _ _ handle transaction changed found held same value written =>
    have spared := keyed.handles number handle transaction found held same
    simp only [Transaction.writeCell?, Option.bind_eq_bind, Option.bind_eq_some_iff] at written
    obtain ⟨table, seen, row, -, written⟩ := written
    cases written
    obtain ⟨scalar, unique⟩ := keyed.tables.transactions _ _ held _ table seen
    exact keyed.writeTable held seen rfl scalar (unique.setCell (spared table seen) _ _)
  | free number =>
    refine ⟨keyed.tables.of_eq rfl fun _ => rfl, ?_⟩
    intro other handle inside shown held same
    exact keyed.handles other handle inside (Slots.get?_of_free shown) held same

/-- What is done to a payload keeps keys unique. -/
theorem changes (keyed : server.Keyed) {number : Nat}
    (changes : Changes (.payload number) server after) : after.Keyed := by
  induction changes with
  | refl => exact keyed
  | tail _ step inductionHypothesis => exact inductionHypothesis.change step

/-- A transaction that begins keeps keys unique: no handle was opened in it yet. -/
theorem beginTransaction (keyed : server.Keyed) (numbered : server.Numbered) (id : Nat) :
    (server.beginTransaction id).2.Keyed := by
  unfold Server.beginTransaction
  split
  · exact keyed
  · exact keyed
  · rename_i ready
    split
    · exact keyed.of_eq rfl (fun _ => rfl) rfl
    · suffices started : (server.setConnection id (.inTransaction
          (.start server.secret server.transactions server.catalog))).Keyed from
        started.of_eq rfl (fun _ => rfl) rfl
      refine keyed.setConnection (by simp [ready]) ?_ ?_
      · rintro _ ⟨⟩
        exact keyed.tables.catalog
      · rintro _ ⟨⟩ number handle found - same
        have earlier := (numbered.handles number handle found).2
        exact absurd same (Nat.ne_of_gt earlier)

/-- A commit keeps keys unique: the tables it publishes have unique keys on their own. -/
theorem commit (keyed : server.Keyed) (id : Nat) : (server.commit id).2.Keyed := by
  unfold Server.commit
  split
  · exact keyed
  · exact keyed
  · rename_i transaction held
    have ended : (server.setConnection id .ready).Keyed := keyed.leave (by simp [held]) nofun
    dsimp only
    split
    · exact ended.of_eq rfl (fun _ => rfl) rfl
    · have published : ((server.setConnection id .ready).publish transaction.changed).Keyed :=
        ⟨ended.tables.publish (keyed.tables.transactions id transaction held), ended.handles⟩
      exact published.of_eq rfl (fun _ => rfl) rfl

/-- A rollback keeps keys unique. -/
theorem rollback (keyed : server.Keyed) (id : Nat) : (server.rollback id).2.Keyed := by
  unfold Server.rollback
  split
  · exact keyed
  · exact keyed
  · rename_i held
    have ended : (server.setConnection id .ready).Keyed := keyed.leave (by simp [held]) nofun
    exact ended.of_eq rfl (fun _ => rfl) rfl

/-- Closing a connection keeps keys unique. -/
theorem close (keyed : server.Keyed) (id : Nat) : (server.close id).Keyed := by
  have closing (alive : server.connection id ≠ .closed) :
      (server.setConnection id .closed).Keyed := keyed.leave alive nofun
  unfold Server.close
  split
  · exact keyed
  · rename_i ready
    exact (closing (by simp [ready])).of_eq rfl (fun _ => rfl) rfl
  · rename_i held
    exact (closing (by simp [held])).of_eq rfl (fun _ => rfl) rfl

/-- Releasing a connection keeps keys unique. -/
theorem release (keyed : server.Keyed) (id : Nat) : (server.release id).Keyed where
  tables := ⟨keyed.tables.catalog, fun other transaction held =>
    keyed.tables.transactions other transaction (inTransaction_of_release held)⟩
  handles := fun number handle transaction found held same =>
    keyed.handles number handle transaction found (inTransaction_of_release held) same

/-- Opening a connection keeps keys unique. -/
theorem connect (keyed : server.Keyed) (settings : String) : (server.connect settings).2.Keyed := by
  unfold Server.connect
  split
  · exact keyed
  · constructor
    case tables =>
      exact ⟨keyed.tables.catalog, fun other transaction held =>
        keyed.tables.transactions other transaction (inTransaction_of_add held)⟩
    case handles =>
      intro number handle transaction found held same
      exact keyed.handles number handle transaction found (inTransaction_of_add held) same

/-- A request that leaves key columns alone keeps keys unique. -/
theorem serve (keyed : server.Keyed) (numbered : server.Numbered) {request : Request}
    (spares : request.SparesKeys server) : (request.serve server).Keyed := by
  cases request with
  | createTable table blank =>
    have built : table.Built := spares
    exact keyed.insertTable built.scalarKey (Table.uniqueKeys_of_no_rows blank)
  | resetCounters | refuseNextBegin | refuseNextCommit =>
    exact keyed.of_eq rfl (fun _ => rfl) rfl
  | connect settings => exact keyed.connect settings
  | beginTransaction id => exact keyed.beginTransaction numbered id
  | commit id => exact keyed.commit id
  | rollback id => exact keyed.rollback id
  | close id => exact keyed.close id
  | release id => exact keyed.release id
  | execute id command =>
    rw [Request.serve, execute_snd]
    exact keyed.run spares
  | query id command =>
    have counted : server.countQuery.Keyed := keyed.of_eq rfl (fun _ => rfl) rfl
    rw [Request.serve, query_snd]
    exact counted.run spares
  | openPayload id path token access => exact keyed.openPayload id path token access
  | call payload operation =>
    exact keyed.changes (changes_serve server (.call payload operation))
  | closePayload payload => exact keyed.changes (changes_serve server (.closePayload payload))
  | releasePayload payload => exact keyed.changes (changes_serve server (.releasePayload payload))

end Keyed

/-- **Keys stay unique** along every run that leaves key columns alone once rows are inserted:
no two rows of a table have equal keys, neither in a committed table nor in one that a
transaction sees. -/
theorem KeySparing.uniqueKeys {server : Server} (sparing : server.KeySparing) :
    server.Tables fun _ table => table.UniqueKeys := by
  have keyed : server.Keyed := by
    induction sparing with
    | start secret => exact ⟨⟨nofun, nofun⟩, nofun⟩
    | serve reached request spares inductionHypothesis =>
      exact inductionHypothesis.serve reached.reachable.numbered spares
  exact ⟨fun name table found => (keyed.tables.catalog name table found).2,
    fun id transaction held name table found =>
      (keyed.tables.transactions id transaction held name table found).2⟩

end Server

end Engine

/-! ## An update of keys -/

namespace Sample

open Engine

/-- A server with two recordings. -/
def twoRecordings : Server :=
  (Request.execute 0 (insertion 8)).serve ((Request.execute 0 (insertion 7)).serve connected)

/-- The statement that gives the recording 8 a title. -/
def retitling : Command := .ofText "UPDATE Recordings SET Title = 'Dusk' WHERE Id = 8"

/-- The server after one of two recordings was given a title. -/
def retitled : Server := (Request.execute 0 retitling).serve twoRecordings

/-- The server after one of two recordings was given the number of the other. -/
def rekeyed : Server :=
  (Request.execute 0 (.ofText "UPDATE Recordings SET Id = 7 WHERE Id = 8")).serve twoRecordings

/-- The key column of the recordings on a server, and what it holds. -/
def keys? (server : Server) : Option (Option Nat × List Value) :=
  (server.catalog.get? (fileName "Recordings")).map fun table =>
    (table.key, table.rows.map (·.cell 0))

end Sample

namespace Engine.Server

/-- The requests that give a recording a title leave keys alone. -/
theorem keySparing_retitled : Sample.retitled.KeySparing := by
  have built : Sample.table.Built := .withPayload (.withColumn (.withKey (.empty _) _) _) _
  have filed : Sample.server.KeySparing :=
    .serve (.start [1, 2, 3]) (.createTable Sample.table rfl) built
  have opened : Sample.connected.KeySparing := .serve filed (.connect Sample.settings) trivial
  have first : Sample.connected.sparesKeys 0 (Sample.insertion 7) = true := by decide +kernel
  have second : ((Request.execute 0 (Sample.insertion 7)).serve Sample.connected).sparesKeys 0
      (Sample.insertion 8) = true := by decide +kernel
  have third : Sample.twoRecordings.sparesKeys 0 Sample.retitling = true := by decide +kernel
  have inserted : Sample.twoRecordings.KeySparing :=
    .serve (.serve opened (.execute 0 (Sample.insertion 7)) first) (.execute 0 (Sample.insertion 8))
      second
  exact .serve inserted (.execute 0 Sample.retitling) third

/-- Two recordings, one of which was given a title, have different numbers. -/
theorem uniqueKeys_retitled : Sample.keys? Sample.retitled = some (some 0, [.bigInt 7, .bigInt 8]) ∧
    Sample.retitled.KeySparing ∧ Sample.retitled.Tables fun _ table => table.UniqueKeys :=
  ⟨by decide +kernel, keySparing_retitled, keySparing_retitled.uniqueKeys⟩

/-- **An update of keys is not checked**: it gives two recordings one number. -/
theorem rekeyed_not_unique :
    Sample.rekeyed.Reachable ∧ ¬ Sample.rekeyed.Tables fun _ table => table.UniqueKeys := by
  constructor
  · exact .serve (.serve (.serve (.serve Sample.reachable_server (.connect Sample.settings)) _) _) _
  · intro unique
    have keys : Sample.keys? Sample.rekeyed = some (some 0, [.bigInt 7, .bigInt 7]) := by
      decide +kernel
    obtain ⟨table, found, held⟩ := Option.map_eq_some_iff.1 keys
    obtain ⟨keyed, keys⟩ := Prod.mk.inj held
    have pairs : (table.rows.map (·.cell 0)).Pairwise fun first second =>
        first.sqlEqual second = false ∧ second.sqlEqual first = false :=
      List.pairwise_map.2 (unique.catalog _ table found 0 keyed)
    rw [keys] at pairs
    have different := (List.pairwise_cons.1 pairs).1 _ List.mem_cons_self
    exact absurd different.1 (by decide)

end Engine.Server

end RowPayload
