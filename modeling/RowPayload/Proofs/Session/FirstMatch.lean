import RowPayload.Proofs.Engine.Filing
import RowPayload.Proofs.Engine.Landing
import RowPayload.Proofs.Lifecycle.Binding
import RowPayload.Proofs.Lifecycle.Insertion
import RowPayload.Proofs.Session.Preparing

/-!
# The row that a session is on

A session that inserts a row asks for its handle by the filter alone. So it is on the first
row, in the order of insertion, that the filter selects once the row is inserted, and its
writes land there and nowhere else. The modes that look for a row before they insert one have
found none, so the first row is the new one. The mode that inserts whatever exists may be on
an older row, and then it is the older row's payload that the session works on.

The payload is that of the table's first column for payloads, whatever the payload column of
the descriptor is. Where they are the same column, the payload of a new row starts empty.
-/

namespace RowPayload

open Engine Lifecycle

variable {ε ρ : Type}

/-- The row that is added to a table with some values. -/
def Engine.Table.nextRow (table : Table) (values : List Value) : TableRow :=
  ⟨table.nextRowId, values⟩

/-- All that has changed of what a connection sees is that a table has a new row of values. -/
structure Engine.Server.RowAdded (before after : Server) (id : Nat) (file : String)
    (table : Table) (values : List Value) : Prop where
  seen : before.view id file = some table
  /-- The row is none that was there. -/
  fresh : ∀ old ∈ table.rows, old.id ≠ (table.nextRow values).id
  changed : before.TableChanged after id file (table.append values)

/-- A payload handle is on the first row of a table that a clause selects. -/
structure Engine.Server.OnFirst (server : Server) (payload id : Nat) (access : Access)
    (filter : Clause) (file : String) (table : Table) (target : TableRow) (content : Bytes) :
    Prop where
  first : table.rows.find? (filter.selects table) = some target
  /-- The handle holds what the row has in the first column for payloads. -/
  handle : ∃ transaction column, table.payloadIndex? = some column ∧
    target.cell column = .bytes content ∧
    server.handles.get? payload = some
      ⟨id, transaction, ⟨file, target.id, column⟩, .ofContent content, access, false, true⟩
  /-- Whatever is done in between, work on the handle changes this row and no other. -/
  confined : ∀ (requests : List Request) (request : Request), request.subject = .payload payload →
    (requests.foldl Request.serve server).SameBut
      (request.serve (requests.foldl Request.serve server)) id file target.id

namespace Stream

variable {schema : Schema ρ} {options : Options Server ε} {scope after : Scope Server ε}
  {filter : Clause} {condition : Sql.Condition}

/-! ## The row that was inserted -/

/-- Preparing a row leads from a reachable server to a reachable one. -/
theorem reachable_prepareRow (reached : scope.store.Reachable)
    (done : (prepareRow options).perform scope = (.ok filter, after)) : after.store.Reachable := by
  obtain ⟨-, -, _, _, _, -, ⟨-, same⟩ | ⟨written, count, -, executed⟩⟩ := prepareRow_ok done
  · exact same ▸ reached
  · have served : after.store =
        (Request.execute scope.context.connection written).serve scope.store := by
      rw [Request.serve, executed]
    rw [served]
    exact .serve reached _

/-- Preparing a row that has inserted one has executed a statement that adds it. -/
theorem prepareRow_added (naming : Naming scope.context.descriptor)
    (creates : options.mode.createsRow = true) {semicolons : Nat}
    (spells : filter.Spells condition semicolons) (sound : scope.store.Sound)
    (done : (prepareRow options).perform scope = (.ok filter, after))
    (inserted : scope.store.counters.inserts < after.store.counters.inserts) :
    ∃ table values,
      scope.store.RowAdded after.store scope.context.connection (fileName naming.table) table
        values ∧
      (∃ column, table.columnIndex naming.payload = .ok column ∧
        (table.nextRow values).cell column = .bytes []) ∧
      (options.mode ≠ .createNew → ∀ row ∈ table.rows, ∀ passed,
        passes filter.parameters table (some condition) row = .ok passed → passed = false) := by
  obtain ⟨-, -, surroundings, later, answer, performed, either⟩ := prepareRow_ok done
  rcases either with ⟨-, same⟩ | ⟨written, count, rfl, executed⟩
  · rw [same] at inserted
    exact absurd inserted (Nat.lt_irrefl _)
  · obtain ⟨entries, mapped, composed⟩ := command_ok performed
    obtain ⟨statement, effect, alive, parsed, ran, same⟩ := Server.execute_cases executed
    have inserts := naming.inserts_of_parse spells creates mapped composed.symm parsed
    have parameters := Server.parameters_scene scope.store
      (scope.store.connection scope.context.connection) written.parameters
    rw [← parameters] at inserts
    rw [same, Server.inserts_countStatement] at inserted
    obtain ⟨table, values, added, unmatched⟩ := inserts.run_ok ran (by omega)
    have seen : scope.store.view scope.context.connection (fileName naming.table) =
        some table := by
      rw [← Server.table?_scene]
      exact Scene.table?_of_table added.found
    refine ⟨table, values, ⟨seen, ?_, ?_⟩, added.payload, unmatched⟩
    · intro old member
      exact Nat.ne_of_lt ((sound.of_view seen).fresh old member)
    · rw [same, added.effect]
      exact Server.tableChanged_absorb alive _ _ 1 0

/-! ## The row that was opened -/

/-- A handle on a cell stays there, and changes its row only. -/
theorem confined_of_handle {server : Server} {payload : Nat} {handle : Handle}
    (given : payload < server.handles.next) (held : server.handles.get? payload = some handle)
    (requests : List Request) {request : Request} (own : request.subject = .payload payload) :
    (requests.foldl Request.serve server).SameBut
      (request.serve (requests.foldl Request.serve server)) handle.connection
        handle.address.table handle.address.row := by
  have on : server.HandleOn payload handle.connection handle.address := by
    refine ⟨given, fun other found => ?_⟩
    rw [held] at found
    cases found
    exact ⟨rfl, rfl⟩
  exact (on.serveAll requests).sameBut own

/-- A payload that was opened at the path locator of a row of a table is that row's. -/
theorem openPayload_row {server after : Server} {id : Nat} {path : String} {token : Bytes}
    {access : Access} {number : Nat} (sound : server.Sound)
    (filed : server.Tables Table.FiledUnder) {file : String} {table : Table} {row : TableRow}
    (seen : server.view id file = some table) (member : row ∈ table.rows)
    (located : path = Locator.write table.name row.id)
    (opened : server.openPayload id path token access = (.ok number, after)) :
    ∃ transaction column content, table.payloadIndex? = some column ∧
      row.cell column = .bytes content ∧ number < after.handles.next ∧
      after.handles.get? number = some
        ⟨id, transaction, ⟨file, row.id, column⟩, .ofContent content, access, false, true⟩ := by
  obtain ⟨transaction, ⟨name, number, column⟩, content, held, led, -, -, given, handled⟩ :=
    Server.openPayload_ok opened
  obtain ⟨tableName, own, ownRow, read, rfl, known, first, numbered, stored⟩ :=
    Transaction.payload?_eq_some led
  rw [located] at read
  obtain ⟨rfl, rfl⟩ := Locator.read?_write read
  have sees : transaction.table? file = some table := by
    rw [Server.view, held] at seen
    exact seen
  have own_file : fileName table.name = file := filed.transactions id transaction held file table sees
  rw [own_file] at known
  obtain rfl : table = own := by
    rw [sees] at known
    exact Option.some.inj known
  have isRow := (sound.of_view seen).row?_of_mem member
  obtain rfl : row = ownRow := by
    rw [isRow] at numbered
    exact Option.some.inj numbered
  refine ⟨transaction.number, column, content, first, ?_, given, own_file ▸ handled⟩
  rw [TableRow.cell, List.getD_eq_getElem?_getD, stored]
  rfl

/-- A payload that was opened by a filter was asked for in a column for payloads of a table that is
seen. The filter could be tried on every row there, and the path is that of the first row that it
selects. -/
theorem openRow_asks (naming : Naming scope.context.descriptor) {opened : Opened ρ}
    (done : (openRow schema options filter).perform scope = (.ok opened, after)) :
    ∃ condition semicolons, ∃ _ : filter.Spells condition semicolons, ∃ table target place,
      scope.store.view scope.context.connection (fileName naming.table) = some table ∧
      (∀ row ∈ table.rows, ∃ passed,
        passes filter.parameters table (some condition) row = .ok passed) ∧
      table.rows.find? (filter.selects table) = some target ∧
      opened.path = Locator.write table.name target.id ∧
      table.columnIndex naming.payload = .ok place ∧
      (table.columns[place]?.map TableColumn.isPayload).getD false = true := by
  obtain ⟨result, row, token, asked, ready, queried, starts, shown, -⟩ := openRow_cases done
  obtain ⟨-, statement, effect, parsed, ran, outcome⟩ := Server.query_cases queried
  obtain ⟨items, condition, semicolons, spells, rfl⟩ := naming.handleQuery_of_parse parsed
  have binds : boundValues (scope.store.scene (scope.store.connection scope.context.connection)
      (handleQuery scope.context.descriptor filter options.access.canRead).parameters).parameters =
        boundValues filter.parameters := by
    rw [Server.parameters_scene, boundValues_handleQuery]
  obtain ⟨found, selected, rfl⟩ := Scene.run_select ran
  obtain rfl : found = result := Outcome.rows.inj outcome
  obtain ⟨table, target, known, tried, first, items⟩ := Scene.select_first selected starts
  have seen := Scene.table?_of_table known
  rw [Server.table?_scene] at seen
  obtain ⟨value, _, located, -, values⟩ := Checked.mapM_cons_ok items
  rw [values] at shown
  cases shown
  obtain ⟨path, place, placed, holdsPayloads⟩ := Scene.pathName_text located
  refine ⟨condition, semicolons, spells, table, target, place, seen, fun row inside => ?_, ?_,
    path, placed, holdsPayloads⟩
  · obtain ⟨passed, answer⟩ := tried row inside
    exact ⟨passed, passes_mono (binds ▸ List.prefix_rfl) answer⟩
  · rw [spells.selects_eq, ← picks_congr binds]
    exact first

/-- A payload that was opened by a filter is that of the first row that the filter selects, and
the filter could be tried on every row. -/
theorem openRow_onFirst (naming : Naming scope.context.descriptor)
    (other : options.mode ≠ .append) (sound : scope.store.Sound)
    (filed : scope.store.Tables Table.FiledUnder) {opened : Opened ρ}
    (done : (openRow schema options filter).perform scope = (.ok opened, after)) :
    ∃ condition semicolons, ∃ _ : filter.Spells condition semicolons,
      ∀ table, scope.store.view scope.context.connection (fileName naming.table) = some table →
        (∀ row ∈ table.rows, ∃ passed,
          passes filter.parameters table (some condition) row = .ok passed) ∧
        ∃ target content, after.store.OnFirst opened.payload scope.context.connection
          options.access filter (fileName naming.table) table target content := by
  obtain ⟨condition, semicolons, spells, own, target, _, known, tried, first, located, -⟩ :=
    openRow_asks naming done
  refine ⟨condition, semicolons, spells, fun table seen => ?_⟩
  obtain rfl : own = table := by
    rw [known] at seen
    exact Option.some.inj seen
  obtain ⟨_, _, token, asked, ready, queried, -, -, opens, -, continued⟩ := openRow_cases done
  obtain rfl : after = ready := by
    rcases continued with ⟨-, same⟩ | ⟨appending, -⟩
    · exact same
    · exact absurd appending other
  -- Counting the query has changed nothing that opening a payload looks at.
  obtain ⟨⟨change, rfl⟩, -⟩ := Server.query_cases queried
  have countedSound : (scope.store.count change).Sound := sound.of_eq rfl rfl
  have countedFiled : (scope.store.count change).Tables Table.FiledUnder :=
    filed.of_eq rfl fun _ => rfl
  have stillSeen : (scope.store.count change).view scope.context.connection
      (fileName naming.table) = some own := seen
  have member : target ∈ own.rows := List.mem_of_find?_eq_some first
  obtain ⟨transaction, column, content, payloads, stored, given, handled⟩ :=
    openPayload_row countedSound countedFiled stillSeen member located opens
  exact ⟨tried, target, content, first, ⟨transaction, column, payloads, stored, handled⟩,
    fun requests request => confined_of_handle given handled requests⟩

/-! ## The first row -/

/-- The first of some elements that pass a test, a last one of which is none of the others, is
the last one exactly if no other passes. -/
theorem find?_concat_eq_last {α : Type} {test : α → Bool} {elements : List α} {last found : α}
    (fresh : last ∉ elements) (first : (elements ++ [last]).find? test = some found) :
    found = last ↔ ∀ element ∈ elements, test element = false := by
  rw [List.find?_append] at first
  constructor
  · rintro rfl
    cases earlier : elements.find? test with
    | none => simpa using earlier
    | some other =>
      rw [earlier, Option.some_or] at first
      cases first
      exact absurd (List.mem_of_find?_eq_some earlier) fresh
  · intro none
    have earlier : elements.find? test = Option.none := by simpa using none
    rw [earlier, Option.none_or] at first
    simpa using List.mem_of_find?_eq_some first

/-- **A session that has inserted a row is on the first row that its filter selects**, in the
order of insertion, once the row is there. Take a reachable server, a descriptor whose table
and columns are written as names, and a mode that may insert a row. If the stream opens and its
statement has inserted a row, then that row is all that was added, the payload handle is on the
first row selected, and whatever is done on the handle changes this row and no other. The row is
the new one exactly if the filter selects none of the others, as is the case in every mode that
looks before it inserts. The payload of the new row starts empty if the payload column is the
first of the table's columns for payloads. -/
theorem opens_first_match {context : Context} {world opened : World Server ε}
    {stream : Stream Server ε ρ} (reached : world.store.Reachable)
    (naming : Naming context.descriptor) (creates : options.mode.createsRow = true)
    (opens : (openOn context schema options).perform world = (.ok stream, opened))
    (inserted : world.store.counters.inserts <
      ((prepareRow options).perform ⟨world, context⟩).2.store.counters.inserts) :
    ∃ filter table values target content,
      ((prepareRow options).perform ⟨world, context⟩).1 = .ok filter ∧
      world.store.RowAdded ((prepareRow options).perform ⟨world, context⟩).2.store
        context.connection (fileName naming.table) table values ∧
      opened.store.OnFirst stream.payload context.connection options.access filter
        (fileName naming.table) (table.append values) target content ∧
      (target = table.nextRow values ↔
        ∀ old ∈ table.rows, filter.selects (table.append values) old = false) ∧
      (options.mode ≠ .createNew → target = table.nextRow values) ∧
      (target = table.nextRow values → ∀ column, table.payloadIndex? = some column →
        table.columnIndex naming.payload = .ok column → content = []) := by
  obtain ⟨filter, ⟨ready, own⟩, found, finish, prepared, done, rfl, rfl⟩ := openOn_cases opens
  rw [prepared] at inserted ⊢
  obtain rfl : own = context := (prepareRow_ok prepared).1
  -- The filter's condition comes from the query for the handle, which was accepted, and the
  -- rest follows from running the statement that was executed before with it.
  have readyReached : ready.store.Reachable := reachable_prepareRow reached prepared
  have other : options.mode ≠ .append := by
    intro appends
    rw [appends] at creates
    cases creates
  obtain ⟨condition, semicolons, spells, opensFirst⟩ :=
    openRow_onFirst naming other readyReached.sound readyReached.filed done
  obtain ⟨table, values, added, ⟨column, placed, empty⟩, unmatched⟩ :=
    prepareRow_added naming creates spells reached.sound prepared inserted
  have seen : ready.store.view own.connection (fileName naming.table) =
      some (table.append values) := by
    rw [added.changed.view, if_pos rfl]
  obtain ⟨tried, target, content, onFirst⟩ := opensFirst (table.append values) seen
  have isNew : target = table.nextRow values ↔
      ∀ old ∈ table.rows, filter.selects (table.append values) old = false := by
    have fresh : table.nextRow values ∉ table.rows := fun member => added.fresh _ member rfl
    exact find?_concat_eq_last fresh onFirst.first
  refine ⟨filter, table, values, target, content, rfl, added, onFirst, isNew, ?_, ?_⟩
  · intro looks
    rw [isNew]
    intro old member
    obtain ⟨passed, answered⟩ := tried old (List.mem_append_left _ member)
    rw [Clause.selects, spells.condition?_eq]
    exact (picks_of_passes answered).trans (unmatched looks old member passed answered)
  · rintro rfl place payloads same
    obtain ⟨_, own, first, stored, -⟩ := onFirst.handle
    have isFirst : table.payloadIndex? = some own := first
    rw [payloads] at isFirst
    cases isFirst
    rw [placed] at same
    cases same
    rw [empty] at stored
    exact (Value.bytes.inj stored).symm

end Stream

/-! ## Recordings -/

namespace Sample

/-- A context on the first connection. -/
def context (descriptor : Descriptor) : Context := ⟨descriptor, 0, true, .active⟩

/-- The archive with the recording of another dawn, and a transaction in progress. -/
def archive : Server :=
  ((connected.execute 0 (.ofText
    "INSERT INTO Recordings ([Id], [Title], [Sound]) VALUES (8, 'Dawn', 0x0102)")).2.beginTransaction
      0).2

/-- The recording that is in the archive. -/
def older : TableRow := ⟨1, [.bigInt 8, .text "Dawn", .bytes [1, 2]]⟩

/-- The table of recordings with the one in the archive. -/
def archived : Table := { table with rows := [older], nextRowId := 2 }

/-- The archive is reachable. -/
theorem reachable_archive : archive.Reachable :=
  .serve (.serve (.serve reachable_server (.connect settings)) (.execute 0 _))
    (.beginTransaction 0)

/-- The table and the columns of recordings are names. -/
def naming : Naming descriptor where
  tableTokens := [.word "Recordings"]
  tableParts := ["Recordings"]
  table_read := by cbv
  table_spelled := .last (.word _)
  payloadTokens := [.quoted "Sound"]
  payloadParts := ["Sound"]
  payload_read := by cbv
  payload_spelled := .last (.quoted _)
  columns_spelled := by
    intro property column known
    simp only [descriptor, OrderedMap.get?_insert] at known
    split at known
    · cases known
      exact ⟨[.quoted "Sound"], ["Sound"], by cbv, .last (.quoted _)⟩
    split at known
    · cases known
      exact ⟨[.quoted "Title"], ["Title"], by cbv, .last (.quoted _)⟩
    split at known
    · cases known
      exact ⟨[.quoted "Id"], ["Id"], by cbv, .last (.quoted _)⟩
    · cases known

/-- Insert the recording with the number 7, or empty its sound. -/
def creatingOptions : Options Server Unit := ⟨.create, .readWrite, seventh, some recording, none⟩

/-- What opening a stream has come to. -/
structure Landing where
  /-- How many rows the statement of the mode has inserted. -/
  inserted : Nat
  /-- The row of the handle, as it was before, if it was there. -/
  before : Option TableRow
  /-- The bytes that the payload starts with. -/
  content : Bytes
  /-- The row of the handle once a byte is written. -/
  written : Option TableRow
deriving DecidableEq

/-- Where a stream on the first connection lands. -/
def landing? (server : Server) (descriptor : Descriptor) (options : Options Server Unit) :
    Option Landing :=
  let ready := ((Stream.prepareRow options).perform ⟨⟨server, ()⟩, context descriptor⟩).2.store
  match (Stream.openOn (context descriptor) schema options).perform ⟨server, ()⟩ with
  | (.error _, _) => none
  | (.ok stream, opened) => (opened.store.handles.get? stream.payload).map fun handle =>
    let written := [FileOperation.write [255], .flush].foldl
      (fun server operation => ((operation.perform stream.payload).perform server).2) opened.store
    ⟨ready.counters.inserts - server.counters.inserts,
      (server.view 0 handle.address.table).bind (·.row? handle.address.row),
      handle.file.content,
      (written.view 0 handle.address.table).bind (·.row? handle.address.row)⟩

/-- A stream that has landed has opened, and its preparation has inserted as many rows. -/
theorem landing?_eq_some {server : Server} {descriptor : Descriptor}
    {options : Options Server Unit} {landing : Landing}
    (landed : landing? server descriptor options = some landing) :
    ∃ stream opened, (Stream.openOn (context descriptor) schema options).perform ⟨server, ()⟩ =
        (.ok stream, opened) ∧
      landing.inserted = ((Stream.prepareRow options).perform
        ⟨⟨server, ()⟩, context descriptor⟩).2.store.counters.inserts - server.counters.inserts := by
  unfold landing? at landed
  dsimp only at landed
  split at landed
  · cases landed
  · rename_i stream opened opens
    obtain ⟨handle, -, rfl⟩ := Option.map_eq_some_iff.1 landed
    exact ⟨stream, opened, opens, rfl⟩

end Sample

/-- A session that inserts the recording with the number 7 is on it, though there is an older
recording of the same title, and its payload starts empty. -/
theorem opens_first_match_recording :
    ∃ (stream : Stream Server Unit Unit) (opened : World Server Unit) (filter : Clause)
      (values : List Value) (target : TableRow) (content : Bytes),
      Sample.archive.Reachable ∧ Sample.creatingOptions.mode.createsRow = true ∧
      (Stream.openOn (Sample.context Sample.descriptor) Sample.schema
        Sample.creatingOptions).perform ⟨Sample.archive, ()⟩ = (.ok stream, opened) ∧
      Sample.archive.counters.inserts < ((Stream.prepareRow Sample.creatingOptions).perform
        ⟨⟨Sample.archive, ()⟩, Sample.context Sample.descriptor⟩).2.store.counters.inserts ∧
      opened.store.OnFirst stream.payload 0 .readWrite filter (fileName Sample.naming.table)
        (Sample.archived.append values) target content ∧
      target = Sample.archived.nextRow values ∧ content = [] := by
  have landed : Sample.landing? Sample.archive Sample.descriptor Sample.creatingOptions =
      some ⟨1, none, [], some ⟨2, [.int 7, .text "Dawn", .bytes [255]]⟩⟩ := by
    decide +kernel
  have seen : Sample.archive.view 0 (fileName Sample.naming.table) = some Sample.archived := by
    decide +kernel
  obtain ⟨stream, opened, opens, grown⟩ := Sample.landing?_eq_some landed
  have inserted : Sample.archive.counters.inserts <
      ((Stream.prepareRow Sample.creatingOptions).perform
        ⟨⟨Sample.archive, ()⟩, Sample.context Sample.descriptor⟩).2.store.counters.inserts :=
    Nat.sub_pos_iff_lt.1 (Nat.lt_of_lt_of_eq Nat.one_pos grown)
  obtain ⟨filter, table, values, target, content, -, added, onFirst, -, own, empty⟩ :=
    Stream.opens_first_match Sample.reachable_archive Sample.naming rfl opens inserted
  obtain rfl : Sample.archived = table := Option.some.inj (seen.symm.trans added.seen)
  have isNew := own nofun
  exact ⟨stream, opened, filter, values, target, content, Sample.reachable_archive, rfl, opens,
    inserted, onFirst, isNew, empty isNew 2 (by decide) (by decide)⟩

namespace Sample

/-- Insert the recording with the number 7, and ask for a dawn. -/
def titledOptions : Options Server Unit :=
  ⟨.createNew, .readWrite, .columnEquals "title" (.text "Dawn"), some recording, none⟩

/-- Insert a recording with the number 7, or empty its sound, and ask for that number. -/
def numberedOptions (row : NewRow Unit) : Options Server Unit :=
  ⟨.create, .readWrite, seventh, some (row.set "id" (.int 7)), none⟩

/-- A server with a table in which sounds come after covers, and a transaction in progress. -/
def covers : Server :=
  ((((Server.ofSecret [1, 2, 3]).createTable
    ((((Table.empty "Recordings").withKey "Id").withPayload "Cover").withPayload
      "Sound")).connect settings).2.beginTransaction 0).2

/-- How recordings with covers are stored: the payload is the sound. -/
def coverDescriptor : Descriptor where
  table := "Recordings"
  columns := ((OrderedMap.empty.insert "id" "[Id]").insert "cover" "[Cover]").insert
    "sound" "[Sound]"
  identifier := some "id"
  payload := "sound"
  payloadColumn := "[Sound]"
  payload_mapped := rfl
  identifier_mapped := by
    rintro _ ⟨⟩
    decide

/-- A mapping of titles to a column that is no name: it goes on with a table, and with a
condition that takes in the text up to the next closing bracket as a name. -/
def splicedDescriptor : Descriptor where
  table := "Recordings"
  columns := ((OrderedMap.empty.insert "id" "[Id]").insert "title"
    "[Title] FROM Recordings WHERE (1 = 1 OR [").insert "sound" "[Sound]"
  identifier := some "id"
  payload := "sound"
  payloadColumn := "[Sound]"
  payload_mapped := rfl
  identifier_mapped := by
    rintro _ ⟨⟩
    decide

end Sample

/-- A session that inserts a row need not be on it, nor find its payload empty. In the mode that
inserts whatever exists, one that asks by title is on the older of two recordings, and writes
over its sound. Where covers come before sounds, one that inserts a recording with a cover finds
the cover. Where a column is mapped to what is no name, one is on a row that its filter does not
select. -/
theorem opens_older_recording :
    Sample.landing? Sample.archive Sample.descriptor Sample.titledOptions =
      some ⟨1, some Sample.older, [1, 2],
        some ⟨1, [.bigInt 8, .text "Dawn", .bytes [255, 2]]⟩⟩ ∧
    Sample.landing? Sample.covers Sample.coverDescriptor
        (Sample.numberedOptions (NewRow.empty.set "cover" (.bytes [1, 2]))) =
      some ⟨1, none, [1, 2], some ⟨1, [.int 7, .bytes [255, 2], .bytes []]⟩⟩ ∧
    Sample.landing? Sample.archive Sample.splicedDescriptor
        (Sample.numberedOptions NewRow.empty) =
      some ⟨1, some Sample.older, [1, 2],
        some ⟨1, [.bigInt 8, .text "Dawn", .bytes [255, 2]]⟩⟩ := by
  decide +kernel

end RowPayload
