import RowPayload.Proofs.Engine.Counting
import RowPayload.Proofs.Engine.Scalars
import RowPayload.Proofs.Engine.WellFormed
import RowPayload.Proofs.Lifecycle.Ensuring
import RowPayload.Proofs.Session.Frame
import RowPayload.Proofs.Session.Requests

/-!
# Sessions that create one row

A session that asks for a row by its identifier, in a mode that looks before it inserts, finds the
row or inserts it. So of sessions that ask for one identifier one after another the first inserts
the row, the others find it, and all of them together insert one row. What the later ones change
are payloads, so the row keeps the scalars that the first one has given it.
-/

namespace RowPayload

open Engine Lifecycle

variable {ε ρ : Type}

/-! ## Preparing the row -/

section

variable {descriptor : Descriptor} {naming : Naming descriptor} {selects : TableRow → Bool}
  {before after : Table} {cell : Nat → Value} {effect : Effect}
  (ensured : naming.Ensured selects before cell effect after)
include ensured

/-- A row that was added or found is all that has changed of what a connection sees. -/
theorem Lifecycle.Naming.Ensured.tableChanged {server : Server} {id : Nat}
    (alive : server.connection id ≠ .closed)
    (seen : server.view id (fileName naming.table) = some before) :
    server.TableChanged ((server.absorb id (server.connection id) effect.written).countStatement
      effect.inserted effect.updated) id (fileName naming.table) after := by
  cases ensured with
  | added missing => exact Server.tableChanged_absorb alive _ _ _ _
  | kept found => exact Server.tableChanged_same seen _ _
  | emptied found placed updated outcome => exact Server.tableChanged_absorb alive _ _ _ _

/-- The columns are those that were there. -/
theorem Lifecycle.Naming.Ensured.columns : after.columns = before.columns := by
  cases ensured <;> rfl

/-- Where the rows that are selected are those of a key, one with some cells was added unless there
was one, if there is one now and payloads are kept in a column for payloads. -/
theorem Lifecycle.Naming.Ensured.ensures {column : Nat} {key : Value}
    (byKey : ∀ row, selects row = (row.cell column).sqlEqual key) {target : TableRow}
    (there : target ∈ after.rows) (matching : (target.cell column).sqlEqual key = true)
    {payload : Nat} (placed : after.columnIndex naming.payload = .ok payload)
    (holdsPayloads : (after.columns[payload]?.map TableColumn.isPayload).getD false = true) :
    before.Ensures column key cell effect.inserted after := by
  have present (found : ∃ row ∈ before.rows, selects row = true) :
      ∃ row ∈ before.rows, (row.cell column).sqlEqual key = true := by
    obtain ⟨row, member, selected⟩ := found
    exact ⟨row, member, (byKey row).symm.trans selected⟩
  cases ensured with
  | added missing =>
    have none : ∀ row ∈ before.rows, (row.cell column).sqlEqual key = false := fun row member =>
      (byKey row).symm.trans (missing row member)
    refine .added rfl none (Table.holdsOne_append none ?_)
    -- The row of the key that is there now is none of those that were.
    rcases List.mem_append.1 there with old | new
    · rw [none target old] at matching
      cases matching
    · obtain rfl := List.mem_singleton.1 new
      exact matching
  | kept found => exact .found (present found) (.refl before)
  | emptied found emptiedPlace updated outcome =>
    obtain rfl : payload = _ := Except.ok.inj
      ((Table.columnIndex_of_columns rfl placed).symm.trans emptiedPlace)
    exact .found (present found)
      (before.payloadsChanged_assign (fun row => selects row = true) _ holdsPayloads)

end

/-- The command of a mode that looks for a row binds the values of the filter and then those of the
row. -/
theorem Lifecycle.boundValues_composed {descriptor : Descriptor} {filter : Clause}
    {entries : List (String × Value)} {mode : OpenMode} (looks : mode.looks = true)
    {written : Command} (composes : composed descriptor filter entries mode = some written) :
    boundValues written.parameters = boundValues filter.parameters ++ entries.map Prod.snd := by
  cases mode with
  | openExisting | createNew | truncate | append => cases looks
  | create | openOrCreate =>
    cases composes
    exact boundValues_inserted _ entries

namespace Stream

/-- Preparing a row in a mode that looks for one has added it or found it. -/
theorem prepareRow_ensured {options : Options Server ε} {context : Context}
    {world : World Server ε} {after : Scope Server ε} {filter : Clause}
    (naming : Naming context.descriptor) {condition : Sql.Condition} {semicolons : Nat}
    (spells : filter.Spells condition semicolons) (looks : options.mode.looks = true)
    {key : Value} (identifies : Predicate.identity context.descriptor key = .ok options.filter)
    {row : NewRow ε} (given : options.newRow = some row)
    (done : (prepareRow options).perform ⟨world, context⟩ = (.ok filter, after)) :
    ∃ before effect ready,
      world.store.view context.connection (fileName naming.table) = some before ∧
      naming.Ensured (filter.selects before) before
        (newCell context.descriptor (context.descriptor.placeIn before)
          ((listed context.descriptor row.values.entries).run world.surroundings).1)
        effect ready ∧
      world.store.TableChanged after.store context.connection (fileName naming.table) ready ∧
      after.store.counters.inserts = world.store.counters.inserts + effect.inserted := by
  obtain ⟨-, middle, later, answer, compiled, performed, either⟩ := prepareRow_steps done
  have unmoved : middle = world.surroundings := by
    obtain ⟨identifier, -, same⟩ := Predicate.identity_ok identifies
    rw [same] at compiled
    obtain ⟨_, -, -, -, unmoved⟩ := Predicate.compile_columnEquals compiled
    exact unmoved
  rw [unmoved] at performed
  have creates := OpenMode.createsRow_of_looks looks
  obtain ⟨own, entries, offered, bound, composes⟩ := command_creates creates performed
  obtain rfl : row = own := Option.some.inj (given.symm.trans offered)
  rcases either with ⟨rfl, -⟩ | ⟨written, count, rfl, executed⟩
  · cases mode : options.mode with
    | openExisting | createNew | truncate | append =>
      rw [mode] at looks
      cases looks
    | create | openOrCreate =>
      rw [mode] at composes
      cases composes
  · obtain ⟨statement, effect, alive, parsed, ran, same⟩ := Server.execute_cases executed
    obtain ⟨names, named, known⟩ :=
      naming.creating_of_parse spells creates (mapped_of_boundColumns bound) composes.symm parsed
    obtain ⟨columns, values⟩ := named_of_entries (boundColumns_listed bound) named
    have binds : boundValues (world.store.scene (world.store.connection context.connection)
        written.parameters).parameters = boundValues filter.parameters ++ entries.map Prod.snd := by
      rw [Server.parameters_scene, boundValues_composed looks composes.symm]
    have goesOn : boundValues filter.parameters <+: boundValues (world.store.scene
        (world.store.connection context.connection) written.parameters).parameters :=
      ⟨_, binds.symm⟩
    obtain ⟨before, ready, found, ensured⟩ := naming.ensured_of_creating columns
      ⟨[], by rw [binds, values, List.append_nil]⟩
      (fun table => naming.picks_eq_selects compiled spells goesOn table) looks known ran
    have seen : world.store.view context.connection (fileName naming.table) = some before := by
      rw [← Server.table?_scene]
      exact Scene.table?_of_table found
    refine ⟨before, effect, ready, seen, ensured, ?_, ?_⟩
    · rw [same]
      exact ensured.tableChanged alive seen
    · rw [same, Server.inserts_countStatement]

/-! ## Opening the payload -/

/-- Opening the payload, unless it appends, inserts no row. -/
theorem inserts_openRow {schema : Schema ρ} {options : Options Server ε} {filter : Clause}
    {scope after : Scope Server ε} {opened : Opened ρ} (other : options.mode ≠ .append)
    (done : (openRow schema options filter).perform scope = (.ok opened, after)) :
    after.store.counters.inserts = scope.store.counters.inserts := by
  obtain ⟨result, row, token, asked, ready, queried, -, -, opens, -, continued⟩ :=
    openRow_cases done
  obtain rfl : after = ready := by
    rcases continued with ⟨-, same⟩ | ⟨appends, -⟩
    · exact same
    · exact absurd appends other
  have served : after.store = (Request.openPayload scope.context.connection opened.path token
      options.access).serve asked := by
    rw [Request.serve, opens]
  rw [served, Server.inserts_serve _ _ rfl, Server.inserts_query queried]

/-- What a session was to make of the table of its descriptor, in a mode that looks for the row of a
key, it has made of it when it opens on a payload of that table. -/
theorem openOn_ensures {schema : Schema ρ} {options : Options Server ε} {context : Context}
    {world opened : World Server ε} {stream : Stream Server ε ρ}
    (naming : Naming context.descriptor) (looks : options.mode.looks = true) {key : Value}
    (identifies : Predicate.identity context.descriptor key = .ok options.filter)
    {row : NewRow ε} (given : options.newRow = some row) {identifier : String}
    (known : context.descriptor.identifier = some identifier) {before : Table}
    (seen : world.store.view context.connection (fileName naming.table) = some before)
    {column : Nat} (placed : context.descriptor.place? before identifier = some column)
    (opens : (openOn context schema options).perform world = (.ok stream, opened)) {edit : Edit}
    {content : Bytes}
    (isOn : edit.IsOn ((prepareRow options).perform ⟨world, context⟩).2.store context.connection
      stream.path options.access stream.payload content)
    (address : edit.address.table = fileName naming.table) :
    ∃ inserted, before.Ensures column key
      (newCell context.descriptor (context.descriptor.placeIn before)
        ((listed context.descriptor row.values.entries).run world.surroundings).1)
      inserted edit.table ∧
      opened.store.counters.inserts = world.store.counters.inserts + inserted := by
  obtain ⟨filter, ⟨ready, own⟩, found, finish, prepared, done, rfl, rfl⟩ := openOn_cases opens
  rw [prepared] at isOn
  obtain ⟨rfl, middle, -, -, compiled, -⟩ := prepareRow_steps prepared
  obtain ⟨condition, semicolons, spells, table, target, payload, seenReady, -, first, -,
    payloadPlaced, holdsPayloads⟩ := openRow_asks naming done
  obtain ⟨was, effect, made, wasSeen, ensured, changed, counted⟩ :=
    prepareRow_ensured naming spells looks identifies given prepared
  obtain rfl : before = was := Option.some.inj (seen.symm.trans wasSeen)
  obtain rfl : table = made := by
    rw [changed.view, if_pos rfl] at seenReady
    exact (Option.some.inj seenReady).symm
  have same : edit.table = table := by
    have view : ready.store.view own.connection = edit.prepared.table? := by
      rw [Server.view, isOn.held]
      rfl
    rw [view, ← address, edit.seen] at seenReady
    exact Option.some.inj seenReady
  have selects (other : Table) (same : other.columns = before.columns) (row : TableRow) :
      filter.selects other row = (row.cell column).sqlEqual key := by
    rcases naming.identity_selects identifies compiled spells with none | byKey
    · have selected := List.find?_some first
      rw [none] at selected
      cases selected
    · rw [← Descriptor.place?_of_columns same] at placed
      exact byKey identifier known other column placed row
  have opening := inserts_openRow (OpenMode.ne_append_of_looks looks) done
  have columns : table.columns = before.columns := ensured.columns
  have matching := (selects table columns target).symm.trans (List.find?_some first)
  refine ⟨effect.inserted, ?_, by rw [opening, counted]⟩
  rw [same]
  exact ensured.ensures (selects before rfl) (List.mem_of_find?_eq_some first) matching
    payloadPlaced holdsPayloads

/-- Closing a stream without a hook inserts no row. -/
theorem inserts_close {stream : Stream Server ε ρ} {world : World Server ε} {id : Nat}
    (holding : (⟨world, stream.context⟩ : Scope Server ε).Holding id)
    (unhooked : stream.onClose = none) :
    (stream.close.perform world).2.store.counters.inserts = world.store.counters.inserts := by
  rw [close_requests holding unhooked]
  exact Server.inserts_serveAll _ _ (by simp [Request.runsNone])

end Stream

/-- Opening an owned context inserts no row. -/
theorem Context.inserts_owned? {base begun : Server} {descriptor : Descriptor} {settings : String}
    {context : Context}
    (owned : (owned? descriptor settings : Work Error Server Context).perform base =
      (.ok context, begun)) : begun.counters.inserts = base.counters.inserts := by
  rw [(owned?_requests owned).1]
  exact Server.inserts_serveAll _ _ (by simp [Request.runsNone])

/-! ## Whole sessions -/

/-- A run of calls on a payload, and by how much others have raised the count of inserted rows. -/
inductive CountedRun (id payload : Nat) : Server → Int → Server → Prop where
  | rest (server : Server) : CountedRun id payload server 0 server
  | aside {before middle after : Server} {others : Int} :
      before.Aside id middle → CountedRun id payload middle others after →
      CountedRun id payload before (before.raise middle + others) after
  | call {before after : Server} {others : Int} (operation : FileOperation) :
      CountedRun id payload ((operation.perform payload).perform before).2 others after →
      CountedRun id payload before others after

namespace CountedRun

variable {id payload : Nat} {before after : Server} {others : Int}

/-- A run that is counted is one. -/
theorem payloadRun (run : CountedRun id payload before others after) :
    ∃ history, PayloadRun id payload before history after := by
  induction run with
  | rest server => exact ⟨[], .rest server⟩
  | aside act _ inductionHypothesis =>
    obtain ⟨history, run⟩ := inductionHypothesis
    exact ⟨history, .aside act run⟩
  | call operation _ inductionHypothesis =>
    obtain ⟨history, run⟩ := inductionHypothesis
    exact ⟨_, .call operation run⟩

/-- In a run only others insert rows. -/
theorem raise (run : CountedRun id payload before others after) : before.raise after = others := by
  induction run with
  | rest server => exact server.raise_self
  | aside act _ inductionHypothesis => rw [← inductionHypothesis, Server.raise_add]
  | call operation _ inductionHypothesis =>
    rwa [Server.raise, Server.counters_call] at inductionHypothesis

/-- Calls one after another are a run in which others do nothing. -/
theorem ofOperations (id payload : Nat) (operations : List FileOperation) (server : Server) :
    CountedRun id payload server 0 (FileOperation.performAll payload operations server) := by
  induction operations generalizing server with
  | nil => exact .rest server
  | cons operation rest inductionHypothesis => exact .call operation (inductionHypothesis _)

end CountedRun

/-- A session that owns its connection and asks for the row of a key by the identifier, in a mode
that looks for the row before it inserts one, with any calls on its payload, closed without a
failure. It offers a new row, has no hook, and is told with the values that it offers and with
what others have raised the count of inserted rows by. -/
inductive CreateSession (ε : Type) (descriptor : Descriptor) (key : Value) :
    Server → List (String × Value) → Int → Server → Prop where
  | closed {ρ : Type} {base begun store after : Server} {settings : String} {context : Context}
      {surroundings later : ε} {schema : Schema ρ} {options : Options Server ε} {row : NewRow ε}
      {stream : Stream Server ε ρ} {opened last : World Server ε} {others : Int}
      (reachable : base.Reachable)
      (owned : (Context.owned? descriptor settings : Work Error Server Context).perform base =
        (.ok context, begun))
      (aside : begun.Aside context.connection store)
      (looks : options.mode.looks = true)
      (identifies : Predicate.identity descriptor key = .ok options.filter)
      (given : options.newRow = some row)
      (unhooked : options.onClose = none)
      (opens : (Stream.openOn context schema options).perform ⟨store, surroundings⟩ =
        (.ok stream, opened))
      (run : CountedRun context.connection stream.payload opened.store others after)
      (closes : stream.close.perform ⟨after, later⟩ = (.ok (), last)) :
      CreateSession ε descriptor key base
        ((listed descriptor row.values.entries).run surroundings).1
        (begun.raise store + others) last.store

/-- **A session that asks for the row of a key** has committed what was to be made of the table of
its descriptor: it has added the row with the values it offers where there was none, and has
changed payloads at most where there was one. -/
theorem CreateSession.ensures {descriptor : Descriptor} {key : Value} {base closed : Server}
    {values : List (String × Value)} {others : Int}
    (session : CreateSession ε descriptor key base values others closed)
    (naming : Naming descriptor) {identifier : String}
    (known : descriptor.identifier = some identifier) {before : Table}
    (stored : base.catalog.get? (fileName naming.table) = some before) {column : Nat}
    (placed : descriptor.place? before identifier = some column)
    (scalar : before.IsScalar column) :
    ∃ inserted left, closed.catalog.get? (fileName naming.table) = some left ∧
      before.Ensures column key (newCell descriptor (descriptor.placeIn before) values) inserted
        left ∧
      base.raise closed = inserted + others := by
  obtain @⟨ρ, _, begun, store, after, settings, context, surroundings, later, schema, options, row,
    stream, opened, last, others, reachable, owned, aside, looks, identifies, given, unhooked,
    opens, run, closes⟩ := session
  have seeing := Context.seeing_of_owned? reachable.sound owned aside surroundings
  have committed := Context.view_of_owned? owned aside
  obtain ⟨rfl, -⟩ := Context.owned?_ok owned
  obtain ⟨edit, content, isOn, hooks, holding, isOpen⟩ := Stream.openOn_ok seeing opens
  obtain ⟨_, _, again, -, -, on⟩ :=
    Stream.openOn_readied naming reachable.filed.catalog committed opens isOn
  obtain ⟨inserted, ensures, counted⟩ := Stream.openOn_ensures naming looks identifies given known
    (by rw [committed]; exact stored) placed opens isOn on.address
  obtain ⟨history, ran⟩ := run.payloadRun
  rw [← isOn.connection, ← isOn.payload] at ran
  obtain ⟨-, final⟩ := isOpen.run ran
  generalize PlainFile.run _ _ _ = finished at final
  have stillHolding : (⟨⟨after, later⟩, stream.context⟩ :
      Scope Server ε).Holding edit.connection := by
    rw [isOn.connection]
    exact ⟨holding.owned, holding.connection, holding.active⟩
  have closing := Stream.inserts_close stillHolding (hooks.trans unhooked)
  obtain ⟨transaction, holds, published⟩ := Edit.catalog_closed final isOn.payload stillHolding
    (hooks.trans unhooked) (by rw [closes])
  rw [closes] at published closing
  refine ⟨inserted, edit.tableWith finished.2.content, ?_, ensures.payloadsChanged scalar ?_, ?_⟩
  · rw [published, ← on.address, holds.table]
  · obtain ⟨_, table, _, -, -, seen, first, -, -⟩ := Transaction.payload?_eq_some isOn.led
    obtain rfl : edit.table = table := Option.some.inj (edit.seen.symm.trans seen)
    exact edit.table.payloadsChanged_assign (fun row => row.id = edit.address.row) _
      (Table.holdsPayloads_of_first first)
  · have owning := Context.inserts_owned? owned
    have counting := Server.raise_eq_iff.1 run.raise
    rw [Server.raise_eq_iff, Server.raise]
    dsimp only at counted closing
    omega

/-- Sessions that ask for the row of one key, one after another, with the values that each offers
and with what others have raised the count of inserted rows by. In between others commit nothing. -/
inductive CreateSessions (ε : Type) (descriptor : Descriptor) (key : Value) :
    Server → List (List (String × Value)) → Int → Server → Prop where
  | none (server : Server) : CreateSessions ε descriptor key server [] 0 server
  | aside {before after last : Server} {offers : List (List (String × Value))} {others : Int}
      (catalog : after.catalog = before.catalog)
      (further : CreateSessions ε descriptor key after offers others last) :
      CreateSessions ε descriptor key before offers (before.raise after + others) last
  | session {before closed last : Server} {values : List (String × Value)}
      {offers : List (List (String × Value))} {own others : Int}
      (first : CreateSession ε descriptor key before values own closed)
      (further : CreateSessions ε descriptor key closed offers others last) :
      CreateSessions ε descriptor key before (values :: offers) (own + others) last

namespace CreateSessions

variable {descriptor : Descriptor} {key : Value} {start last : Server}
  {offers : List (List (String × Value))} {others : Int} (naming : Naming descriptor)
  {identifier : String} (known : descriptor.identifier = some identifier) {column : Nat}

include naming known in
/-- While a table holds one row of the key, sessions that ask for it insert none and change payloads
at most. -/
theorem changes_payloads (sessions : CreateSessions ε descriptor key start offers others last)
    {table : Table} (stored : start.catalog.get? (fileName naming.table) = some table)
    (placed : descriptor.place? table identifier = some column) (scalar : table.IsScalar column)
    {cell : Nat → Value} (holds : table.HoldsOne column key cell) :
    ∃ left, last.catalog.get? (fileName naming.table) = some left ∧ table.PayloadsChanged left ∧
      start.raise last = others := by
  induction sessions generalizing table with
  | none server => exact ⟨table, stored, .refl table, server.raise_self⟩
  | aside catalog further inductionHypothesis =>
    rw [← catalog] at stored
    obtain ⟨left, found, changed, raised⟩ := inductionHypothesis stored placed scalar holds
    exact ⟨left, found, changed, by rw [← raised, Server.raise_add]⟩
  | session first further inductionHypothesis =>
    obtain ⟨inserted, next, published, ensures, raisedFirst⟩ :=
      first.ensures naming known stored placed scalar
    obtain ⟨rfl, changed⟩ := ensures.changed holds
    obtain ⟨left, found, later, raised⟩ := inductionHypothesis published
      (by rwa [Descriptor.place?_of_columns changed.columns])
      (by rwa [Table.IsScalar, changed.columns]) (holds.payloadsChanged scalar changed)
    refine ⟨left, found, changed.trans later, ?_⟩
    rw [← Server.raise_add, raisedFirst, raised, Nat.cast_zero, zero_add]

include naming known in
/-- Sessions that ask for a key of which a table holds no row have inserted one row, with the values
that the first of them offers. -/
theorem ensures {values : List (String × Value)}
    (sessions : CreateSessions ε descriptor key start (values :: offers) others last)
    {table : Table} (stored : start.catalog.get? (fileName naming.table) = some table)
    (placed : descriptor.place? table identifier = some column) (scalar : table.IsScalar column)
    (missing : ∀ row ∈ table.rows, (row.cell column).sqlEqual key = false) :
    ∃ left, last.catalog.get? (fileName naming.table) = some left ∧
      table.Ensures column key (newCell descriptor (descriptor.placeIn table) values) 1 left ∧
      start.raise last = 1 + others := by
  generalize offered : values :: offers = all at sessions
  induction sessions with
  | none server => cases offered
  | aside catalog further inductionHypothesis =>
    rw [← catalog] at stored
    obtain ⟨left, found, ensures, raised⟩ := inductionHypothesis stored offered
    refine ⟨left, found, ensures, ?_⟩
    rw [← Server.raise_add, raised, add_left_comm]
  | session first further =>
    cases offered
    obtain ⟨inserted, next, published, ensures, raisedFirst⟩ :=
      first.ensures naming known stored placed scalar
    obtain ⟨rfl, holds⟩ := ensures.holds missing
    have columns := ensures.columns
    obtain ⟨left, found, changed, raised⟩ := further.changes_payloads naming known published
      (by rwa [Descriptor.place?_of_columns columns]) (by rwa [Table.IsScalar, columns]) holds
    refine ⟨left, found, ensures.payloadsChanged scalar changed, ?_⟩
    rw [← Server.raise_add, raisedFirst, raised, Nat.cast_one, add_assoc]

end CreateSessions

/-- **Creating is idempotent.** Take a founded server, a descriptor whose table and columns are
written as names and whose identifier is stored in the key of its table, and a key that no row of
the table has. Take sessions one after another that own their connections, ask for the row by
the identifier, in modes that look for the row before they insert one, with new rows, any calls on
their payloads and no hooks, all closed without a failure, while others commit nothing. If there
are any, one row has the key afterwards, its scalars are those that the first session has offered,
and the count of inserted rows has risen by one beyond what others have raised it by. -/
theorem creating_is_idempotent {descriptor : Descriptor} {key : Value} {start last : Server}
    {values : List (String × Value)} {offers : List (List (String × Value))} {others : Int}
    (founded : start.Founded) (naming : Naming descriptor) {identifier : String}
    (known : descriptor.identifier = some identifier) {table : Table}
    (stored : start.catalog.get? (fileName naming.table) = some table) {column : Nat}
    (keyed : table.key = some column)
    (placed : descriptor.place? table identifier = some column)
    (missing : ∀ row ∈ table.rows, (row.cell column).sqlEqual key = false)
    (sessions : CreateSessions ε descriptor key start (values :: offers) others last) :
    ∃ left added, last.catalog.get? (fileName naming.table) = some left ∧
      { left with rows := table.rows, nextRowId := table.nextRowId } = table ∧
      (left.rows.filter fun row => (row.cell column).sqlEqual key) = [added] ∧
      (∀ place, table.IsScalar place →
        added.cell place = newCell descriptor (descriptor.placeIn table) values place) ∧
      (last.counters.inserts : Int) = start.counters.inserts + 1 + others := by
  have scalar : table.IsScalar column :=
    (founded.tables.catalog _ _ stored).scalarKey column keyed
  obtain ⟨left, found, ensures, raised⟩ :=
    sessions.ensures naming known stored placed scalar missing
  obtain ⟨-, added, only, cells⟩ := ensures.holds missing
  have columns := ensures.columns
  refine ⟨left, added, found, ensures.frame, only, fun place placeScalar => cells place ?_, ?_⟩
  · rwa [Table.IsScalar, columns]
  · rw [Server.raise_eq_iff.1 raised, add_assoc]

/-! ## Recordings -/

namespace Sample

/-- The server after a session on the recordings, if it opens and is closed without a failure. -/
def closed? (server : Server) (options : Options Server Unit) (operations : List FileOperation) :
    Option Server :=
  match (Context.owned? descriptor settings : Work Error Server Context).perform server with
  | (.error _, _) => none
  | (.ok context, begun) =>
    match (Stream.openOn context schema options).perform ⟨begun, ()⟩ with
    | (.error _, _) => none
    | (.ok stream, opened) =>
      match stream.close.perform
        ⟨FileOperation.performAll stream.payload operations opened.store, ()⟩ with
      | (.error _, _) => none
      | (.ok _, closed) => some closed.store

/-- The server after a session was left by one that opened and was closed without a failure. -/
theorem closed?_eq_some {server closed : Server} {options : Options Server Unit}
    {operations : List FileOperation} (closes : closed? server options operations = some closed) :
    ∃ context begun stream opened last,
      (Context.owned? descriptor settings : Work Error Server Context).perform server =
        (.ok context, begun) ∧
      (Stream.openOn context schema options).perform ⟨begun, ()⟩ = (.ok stream, opened) ∧
      stream.close.perform
        ⟨FileOperation.performAll stream.payload operations opened.store, ()⟩ = (.ok (), last) ∧
      closed = last.store := by
  unfold closed? at closes
  rcases owned : (Context.owned? descriptor settings : Work Error Server Context).perform server
    with ⟨answer, begun⟩
  rw [owned] at closes
  cases answer with
  | error fault => cases closes
  | ok context =>
    rcases opens : (Stream.openOn context schema options).perform ⟨begun, ()⟩ with ⟨answer, opened⟩
    simp only [opens] at closes
    cases answer with
    | error fault => cases closes
    | ok stream =>
      rcases ends : stream.close.perform
        ⟨FileOperation.performAll stream.payload operations opened.store, ()⟩ with ⟨answer, last⟩
      simp only [ends] at closes
      cases answer with
      | error fault => cases closes
      | ok _ =>
        cases closes
        exact ⟨context, begun, stream, opened, last, rfl, opens, ends, rfl⟩

section

variable {server closed : Server} {options : Options Server Unit}
  {operations : List FileOperation} (closes : closed? server options operations = some closed)
  (reachable : server.Reachable) (looks : options.mode.looks = true)
  (unhooked : options.onClose = none)
include closes reachable looks unhooked

/-- A session that asks for the recording with the number 7, and was closed without a failure, was
one that asks for a row. -/
theorem createSession_of_closed? (asks : options.filter = seventh) {row : NewRow Unit}
    (given : options.newRow = some row) :
    CreateSession Unit descriptor (.int 7) server
      ((listed descriptor row.values.entries).run ()).1 0 closed := by
  obtain ⟨context, begun, stream, opened, last, owned, opens, ends, rfl⟩ := closed?_eq_some closes
  have aside : begun.Aside context.connection begun := ⟨rfl, fun _ _ handled _ => handled, rfl⟩
  have session := CreateSession.closed reachable owned aside looks (by rw [asks]; rfl) given
    unhooked opens (.ofOperations context.connection stream.payload operations opened.store) ends
  rwa [Server.raise_self, add_zero] at session

/-- A session that looks for a row, and was closed without a failure, has left a reachable
server. -/
theorem reachable_of_closed? : closed.Reachable := by
  obtain ⟨context, begun, stream, opened, last, owned, opens, ends, rfl⟩ := closed?_eq_some closes
  have aside : begun.Aside context.connection begun := ⟨rfl, fun _ _ handled _ => handled, rfl⟩
  have seeing := Context.seeing_of_owned? reachable.sound owned aside ()
  obtain ⟨-, -, -, hooks, holding, -⟩ := Stream.openOn_ok seeing opens
  have stillHolding : (⟨⟨FileOperation.performAll stream.payload operations opened.store, ()⟩,
      stream.context⟩ : Scope Server Unit).Holding context.connection :=
    ⟨holding.owned, holding.connection, holding.active⟩
  have begins := (Context.owned?_serves owned).1
  have opening := Stream.openOn_serves (OpenMode.ne_append_of_looks looks) opens
  have calling := FileOperation.performAll_serves stream.payload operations opened.store
  have closing := Stream.close_serves stillHolding (hooks.trans unhooked)
  rw [ends] at closing
  exact (((begins.trans opening).trans calling).trans closing).reachable reachable

end

/-- Insert a recording of dawn with the number 7 unless there is one, and empty its sound. -/
def dawnCreating : Options Server Unit := ⟨.create, .write, seventh, some recording, none⟩

/-- Insert a recording of noon with the number 7 unless there is one. -/
def noonCreating : Options Server Unit :=
  ⟨.openOrCreate, .write, seventh,
    some ((NewRow.empty.set "id" (.int 7)).set "title" (.text "Noon")), none⟩

/-- Give the recording with the number 7 another title. -/
def renameSeventh : Scoped Server Unit Unit := do
  let _ ← Context.execute (.ofText "UPDATE Recordings SET [Title] = 'gone' WHERE [Id] = 7")
  return ()

/-- Insert a recording of dawn with the number 7, and give it another title in the hook. -/
def renamingCreating : Options Server Unit :=
  ⟨.openOrCreate, .write, seventh, some recording, some renameSeventh⟩

/-- A mapping of titles to a column that is no name: it ends the insertion that it stands in with a
title of its own, and goes on with one that is never run. -/
def titlingDescriptor : Descriptor where
  table := "Recordings"
  columns := ((OrderedMap.empty.insert "id" "[Id]").insert "title"
    ("[Title], [Sound]) VALUES (@p1, 'gone', 0x) ELSE INSERT INTO Recordings ([Id], " ++
      "[Title]")).insert "sound" "[Sound]"
  identifier := some "id"
  payload := "sound"
  payloadColumn := "[Sound]"
  payload_mapped := rfl
  identifier_mapped := by
    rintro _ ⟨⟩
    decide

/-- The server after a session has created a recording with the number 7, while another connection
has inserted a recording that it does not commit. -/
def createdMeanwhile? : Option Server :=
  match (Context.owned? descriptor settings : Work Error Server Context).perform
    (connected.beginTransaction 0).2 with
  | (.error _, _) => none
  | (.ok context, begun) =>
    match (Stream.openOn context schema dawnCreating).perform ⟨begun, ()⟩ with
    | (.error _, _) => none
    | (.ok stream, opened) =>
      match stream.close.perform ⟨(opened.store.execute 0 (insertion 8)).2, ()⟩ with
      | (.error _, _) => none
      | (.ok _, closed) => some closed.store

end Sample

/-- A session that creates a recording of dawn and writes its sound, and one that would create a
recording of noon with the same number and writes another, leave one recording, of dawn. -/
theorem creating_is_idempotent_recording :
    ∃ (last : Server) (left : Table) (added : TableRow),
      Sample.server.Founded ∧
      Sample.server.catalog.get? "recordings" = some Sample.table ∧
      Sample.table.key = some 0 ∧
      Sample.descriptor.place? Sample.table "id" = some 0 ∧
      (∀ row ∈ Sample.table.rows, (row.cell 0).sqlEqual (.int 7) = false) ∧
      CreateSessions Unit Sample.descriptor (.int 7) Sample.server
        [[("id", .int 7), ("title", .text "Dawn")], [("id", .int 7), ("title", .text "Noon")]] 0
        last ∧
      last.catalog.get? "recordings" = some left ∧
      (left.rows.filter fun row => (row.cell 0).sqlEqual (.int 7)) = [added] ∧
      added.cell 0 = .int 7 ∧ added.cell 1 = .text "Dawn" ∧
      (last.counters.inserts : Int) = Sample.server.counters.inserts + 1 := by
  have runs : ((Sample.closed? Sample.server Sample.dawnCreating [.write [1, 2]]).bind
      fun first => Sample.closed? first Sample.noonCreating [.write [3]]).isSome = true := by
    decide +kernel
  obtain ⟨last, runs⟩ := Option.isSome_iff_exists.1 runs
  obtain ⟨first, dawn, noon⟩ := Option.bind_eq_some_iff.1 runs
  have creates := Sample.createSession_of_closed? dawn Sample.reachable_server rfl rfl rfl rfl
  have reachable := Sample.reachable_of_closed? dawn Sample.reachable_server rfl rfl
  have finds := Sample.createSession_of_closed? noon reachable rfl rfl rfl rfl
  have sessions : CreateSessions Unit Sample.descriptor (.int 7) Sample.server
      [[("id", .int 7), ("title", .text "Dawn")], [("id", .int 7), ("title", .text "Noon")]] 0
      last := .session creates (.session finds (.none last))
  have file : fileName Sample.naming.table = "recordings" := by decide
  have stored : Sample.server.catalog.get? (fileName Sample.naming.table) = some Sample.table := by
    rw [file]
    decide +kernel
  have placed : Sample.descriptor.place? Sample.table "id" = some 0 := by decide +kernel
  have missing : ∀ row ∈ Sample.table.rows, (row.cell 0).sqlEqual (.int 7) = false := nofun
  obtain ⟨left, added, found, -, only, cells, counted⟩ := creating_is_idempotent
    Sample.founded_server Sample.naming rfl stored rfl placed missing sessions
  rw [file] at found stored
  refine ⟨last, left, added, Sample.founded_server, stored, rfl, placed, missing, sessions, found,
    only, ?_, ?_, by rw [counted, add_zero]⟩
  · rw [cells 0 rfl]
    decide +kernel
  · rw [cells 1 rfl]
    decide +kernel

/-- A session that creates a row may leave it with other scalars than it has offered, and more rows
may be counted than are created. Where titles are mapped to what is no name, the new recording has
a title of the mapping. A hook has given the new recording another title. While others insert and
do not commit, what they insert is counted. -/
theorem creating_leaves_other_titles :
    (Sample.server.catalog.get? "recordings").map Table.rows = some [] ∧
      Sample.left? Sample.server Sample.titlingDescriptor Sample.noonCreating [] =
        some (1, [⟨1, [.int 7, .text "gone", .bytes []]⟩]) ∧
      Sample.left? Sample.server Sample.descriptor Sample.renamingCreating [] =
        some (1, [⟨1, [.int 7, .text "gone", .bytes []]⟩]) ∧
      (Sample.connected.beginTransaction 0).2.counters.inserts = 0 ∧
      Sample.createdMeanwhile?.map (fun server =>
        (server.counters.inserts, server.rowCount "Recordings")) = some (2, 1) := by
  decide +kernel

end RowPayload
