import RowPayload.Proofs.Engine.Change
import RowPayload.Proofs.Sql.Tokens

/-!
# What holds of every table

What a table without rows has, and statements and payloads that are written back keep, every
table has that anybody sees. Every table is sound. And tables are looked up under the names
they are filed under, which are their own: a statement writes a table back in its place and
never changes its name. So the path locator of a row, which has the name of the row's table
in it, leads back to that table.
-/

namespace RowPayload.Engine

/-! ## Properties of tables -/

/-- Every committed table, and every table that a transaction sees, has a property, which may
depend on the name the table is filed under. -/
structure Server.Tables (property : String → Table → Prop) (server : Server) : Prop where
  catalog : ∀ name table, server.catalog.get? name = some table → property name table
  transactions : ∀ id transaction, server.connection id = .inTransaction transaction →
    ∀ name table, transaction.table? name = some table → property name table

namespace Server.Tables

variable {property : String → Table → Prop} {server after : Server}

/-- Only the committed tables and the connections bear on what holds of every table. -/
theorem of_eq (tables : server.Tables property) (catalog : after.catalog = server.catalog)
    (connections : ∀ id, after.connection id = server.connection id) : after.Tables property where
  catalog := by
    rw [catalog]
    exact tables.catalog
  transactions := by
    intro id transaction held
    rw [connections] at held
    exact tables.transactions id transaction held

/-- A connection may be put into any state in which it sees tables with the property. -/
theorem setConnection (tables : server.Tables property) {id : Nat}
    (alive : server.connection id ≠ .closed) {state : Connection}
    (held : ∀ transaction, state = .inTransaction transaction →
      ∀ name table, transaction.table? name = some table → property name table) :
    (server.setConnection id state).Tables property where
  catalog := tables.catalog
  transactions := by
    intro other transaction found
    rw [connection_setConnection alive] at found
    split at found
    · exact held transaction found
    · exact tables.transactions other transaction found

/-- A table with the property may be filed. -/
theorem insertTable (tables : server.Tables property) {file : String} {table : Table}
    (written : property file table) :
    Tables property { server with catalog := server.catalog.insert file table } where
  catalog := by
    intro name seen found
    rw [OrderedMap.get?_insert] at found
    split at found
    · rename_i here
      cases found
      exact here ▸ written
    · exact tables.catalog name seen found
  transactions := tables.transactions

/-- What a transaction has changed may be published if it sees tables with the property. -/
theorem publish (tables : server.Tables property) {transaction : Transaction}
    (held : ∀ name table, transaction.table? name = some table → property name table) :
    (server.publish transaction.changed).Tables property where
  catalog := by
    intro name table found
    rw [get?_publish] at found
    cases changed : transaction.changed.get? name with
    | none =>
      rw [changed] at found
      exact tables.catalog name table found
    | some written =>
      rw [changed] at found
      apply held name table
      rw [Transaction.table?, changed]
      exact found
  transactions := tables.transactions

/-- What a statement on a connection sees has the property. -/
theorem scene (tables : server.Tables property) (id : Nat) (parameters : List Parameter) :
    ∀ name table, (server.scene (server.connection id) parameters).table? name = some table →
      property name table := by
  unfold Server.scene
  cases connected : server.connection id with
  | closed => exact tables.catalog
  | ready => exact tables.catalog
  | inTransaction transaction => exact tables.transactions id transaction connected

/-- A connection may be opened. -/
theorem connect (tables : server.Tables property) :
    Tables property { server with connections := (server.connections.add .ready).2 } where
  catalog := tables.catalog
  transactions := fun id transaction held =>
    tables.transactions id transaction (inTransaction_of_add held)

/-- What statements and payloads that are written back keep, every kind of change keeps, if a
table that is filed without rows has it. -/
theorem change {subject : Subject}
    (blank : subject = .server → ∀ table : Table, table.rows = [] →
      property (fileName table.name) table)
    (statement : ∀ {scene : Scene} {statement : Sql.Statement} {effect : Effect} {file : String}
      {table : Table}, (∀ name seen, scene.table? name = some seen → property name seen) →
      scene.run statement = .ok effect → effect.written = some (file, table) →
      property file table)
    (cell : ∀ {name : String} {table : Table} (id column : Nat) (value : Value),
      property name table → property name (table.setCell id column value))
    (tables : server.Tables property) (change : Change subject server after) :
    after.Tables property := by
  cases change with
  | recount catalog connections _ _ =>
    exact tables.of_eq catalog fun id => by rw [connection, connection, connections]
  | createTable table isBlank => exact tables.insertTable (blank rfl table isBlank)
  | connect => exact tables.connect
  | @begin _ id ready =>
    have started : (server.setConnection id (.inTransaction
        (.start server.secret server.transactions server.catalog))).Tables property := by
      apply tables.setConnection (by simp [ready])
      rintro _ ⟨⟩
      exact tables.catalog
    exact started.of_eq rfl fun _ => rfl
  | leave alive idle =>
    exact tables.setConnection alive fun transaction held => absurd held (idle transaction)
  | @commit _ id transaction held =>
    have ended : (server.setConnection id .ready).Tables property :=
      tables.setConnection (by simp [held]) fun _ equal => by cases equal
    exact ended.publish (tables.transactions id transaction held)
  | release id =>
    exact ⟨tables.catalog, fun other transaction held =>
      tables.transactions other transaction (inTransaction_of_release held)⟩
  | @statement _ id alive parameters _ _ ran file table written =>
    have wrote : property file table := statement (tables.scene id parameters) ran written
    cases connected : server.connection id with
    | closed => exact absurd connected alive
    | ready => exact tables.insertTable wrote
    | inTransaction transaction =>
      apply tables.setConnection alive
      rintro _ ⟨⟩
      exact Transaction.holds_writeTable (tables.transactions id transaction connected) wrote
  | openPayload _ _ _ _ => exact tables.of_eq rfl fun _ => rfl
  | setHandle _ _ _ _ => exact tables.of_eq rfl fun _ => rfl
  | writeCell found held _ written =>
    apply tables.setConnection (by simp [held])
    rintro _ ⟨⟩
    have seen := tables.transactions _ _ held
    simp only [Transaction.writeCell?, Option.bind_eq_bind, Option.bind_eq_some_iff] at written
    obtain ⟨table, known, row, -, equal⟩ := written
    cases equal
    exact Transaction.holds_writeTable seen (cell row.id _ _ (seen _ _ known))
  | free _ => exact tables.of_eq rfl fun _ => rfl

end Server.Tables

/-! ## Soundness -/

namespace Server

/-- Every kind of change keeps a server sound. -/
theorem Sound.change {server after : Server} {subject : Subject} (sound : server.Sound)
    (change : Change subject server after) : after.Sound := by
  have tables : server.Tables fun _ table => table.Sound := ⟨sound.catalog, sound.transactions⟩
  have kept := tables.change (fun _ _ blank => Table.sound_of_no_rows blank)
    (fun seen ran written => Scene.sound_run seen ran written)
    (fun id column value held => held.setCell id column value) change
  exact ⟨kept.catalog, kept.transactions⟩

/-- Changes keep a server sound. -/
theorem Sound.changes {server after : Server} {subject : Subject} (sound : server.Sound)
    (changes : Changes subject server after) : after.Sound :=
  keeps_changes changes sound fun change sound => sound.change change

/-- **Reachable servers are sound.** -/
theorem Reachable.sound {server : Server} (reached : server.Reachable) : server.Sound :=
  reached.of_changes (fun _ => ⟨nofun, nofun⟩) fun change sound => sound.change change

end Server

/-! ## Names -/

/-- A table is filed under its own name. -/
def Table.FiledUnder (name : String) (table : Table) : Prop := fileName table.name = name

/-- A statement writes a table that is filed under its own name back under it. -/
theorem Scene.filedUnder_of_run {scene : Scene} {statement : Sql.Statement} {effect : Effect}
    {file : String} {table : Table}
    (filed : ∀ name seen, scene.table? name = some seen → seen.FiledUnder name)
    (ran : scene.run statement = .ok effect) (written : effect.written = some (file, table)) :
    table.FiledUnder file := by
  rcases run_cases ran with ⟨_, _, _, inserted⟩ | ⟨_, _, _, updated⟩ | ⟨outcome, rfl⟩
  · obtain ⟨target, cells, grown, found, -, grows, rfl⟩ := insert_ok inserted
    cases written
    unfold Table.insert at grows
    split at grows
    · cases grows
    · cases grows
      have own := filed _ target (table?_of_table found)
      exact own
  · obtain ⟨target, cells, marked, found, -, -, rfl⟩ := update_ok updated
    dsimp only at written
    split at written
    · cases written
    · cases written
      have own := filed _ target (table?_of_table found)
      exact own
  · cases written

/-- **Every table of a reachable server is filed under its own name.** -/
theorem Server.Reachable.filed {server : Server} (reached : server.Reachable) :
    server.Tables Table.FiledUnder := by
  refine reached.of_changes (fun secret => ⟨nofun, nofun⟩) fun change tables => ?_
  exact tables.change (fun _ _ _ => rfl) Scene.filedUnder_of_run (fun _ _ _ filed => filed) change

/-! ## Path locators -/

namespace Locator

/-- A text is cut at a separator after which there is no other. -/
theorem cutLast_append {separator : Char} {after : List Char} (clean : separator ∉ after)
    (before : List Char) :
    Text.cutLast separator (before ++ separator :: after) = some (before, after) := by
  have first (reversed : List Char) (absent : separator ∉ reversed) (rest : List Char) :
      Text.cutFirst separator (reversed ++ separator :: rest) = some (reversed, rest) := by
    induction reversed with
    | nil => simp [Text.cutFirst]
    | cons c others inductionHypothesis =>
      simp only [List.mem_cons, not_or] at absent
      rw [List.cons_append, Text.cutFirst, if_neg (Ne.symm absent.1), inductionHypothesis absent.2]
      rfl
  have reversed : (before ++ separator :: after).reverse =
      after.reverse ++ separator :: before.reverse := by simp
  rw [Text.cutLast, reversed, first after.reverse (by simpa using clean)]
  simp

/-- A path locator is read back, if the row's number is small enough. -/
theorem read?_write_eq (table : String) (row : Nat) :
    read? (write table row) = if row < rowBound then some (table, row) else none := by
  have clean : '\\' ∉ (toString row).toList := fun member =>
    absurd (Sql.isDigit_toString member) (by decide)
  have written : (write table row).toList =
      opening ++ (table.toList ++ '\\' :: (toString row).toList) := by
    rw [write, String.toList_ofList, List.append_assoc]
  have isPrefix : opening.isPrefixOf (opening ++ (table.toList ++ '\\' ::
      (toString row).toList)) = true := by
    simp
  have counted : Text.counter? rowBound (toString row).toList =
      (Text.natural? (toString row).toList).filter (· < rowBound) := by
    unfold Text.counter?
    split
    · rename_i rest found
      have sign : '+' ∈ (toString row).toList := by rw [found]; exact List.mem_cons_self
      exact absurd (Sql.isDigit_toString sign) (by decide)
    · rfl
  simp only [read?, written, isPrefix, if_true, List.drop_left, Option.bind_eq_bind,
    Option.bind_some, cutLast_append clean, counted, Sql.natural?_toString]
  by_cases small : row < rowBound
  · simp [Option.filter, small]
  · simp [Option.filter, small]

/-- **A path locator leads to the row it was written for**, if it leads anywhere. -/
theorem read?_write {table name : String} {row id : Nat}
    (read : read? (write table row) = some (name, id)) : name = table ∧ id = row := by
  rw [read?_write_eq] at read
  split at read
  · cases read
    exact ⟨rfl, rfl⟩
  · cases read

/-- Rows of a table that have the same path locator have the same number. -/
theorem write_injective {table : String} {row id : Nat}
    (same : write table row = write table id) : row = id := by
  rw [write, write, String.ofList_inj, List.append_cancel_left_eq, List.cons.injEq] at same
  have read := congrArg Text.natural? same.2
  simpa only [Sql.natural?_toString, Option.some.injEq] using read

end Locator

end RowPayload.Engine
