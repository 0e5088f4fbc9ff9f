import RowPayload.Proofs.Engine.View
import RowPayload.Proofs.Lifecycle.Projecting
import RowPayload.Proofs.Lifecycle.Showing
import RowPayload.Proofs.Record.Filling
import RowPayload.Proofs.Session.Preparing

/-!
# What a reading stream has set

A stream that may be read rebuilds its record from the row that the query for the handle shows. The
query looks a mapped column up as SQL reads it, by the last part of its name; the record is filled
by the text of the mapping without its brackets. For a column that is written plainly the two agree,
and so the field has been set to the value that the query projects for it. A column that is written
otherwise, qualified or with blanks around it, is projected as well, but is passed over when the
record is filled, unless a column that is shown happens to have the whole text for its name.
-/

namespace RowPayload

open Engine Sql

variable {ε ρ : Type}

/-! ## Rows that are shown -/

/-- A command is a selection that shows a row first: the first row of a table that meets its
filter, by the names and the values of what it selects. -/
structure Engine.Server.Shows (server : Server) (id : Nat) (command : Command) (query : Select)
    (table : Table) (target : TableRow) (row : ResultRow) : Prop where
  parsed : Sql.parse command.sql = .ok (.select query)
  answered : ∃ result after, server.query id command = (.ok result, after) ∧
    result.first? = some row
  seen : server.view id (fileName query.table) = some table
  first : table.rows.find? (picks command.parameters table query.filter) = some target
  named : query.items.mapM (Scene.itemName table) = .ok row.columns
  valued : query.items.mapM ((server.scene (server.connection id) command.parameters).project
    table target) = .ok row.values

namespace Engine.Server

variable {server after : Server} {id : Nat} {command : Command} {query : Select}
  {table : Table} {target : TableRow} {row : ResultRow} {name : String} {place : Nat}

/-- The first row that a selection has answered was shown. -/
theorem shows_of_query {result : ResultSet} (parsed : Sql.parse command.sql = .ok (.select query))
    (queried : server.query id command = (.ok result, after)) (starts : result.first? = some row) :
    ∃ table target, server.Shows id command query table target row := by
  obtain ⟨-, statement, effect, read, ran, outcome⟩ := query_cases queried
  cases parsed.symm.trans read
  obtain ⟨found, selected, rfl⟩ := Scene.run_select ran
  obtain rfl : found = result := Outcome.rows.inj outcome
  obtain ⟨table, target, known, -, first, valued⟩ := Scene.select_first selected starts
  have seen := Scene.table?_of_table known
  rw [table?_scene] at seen
  rw [parameters_scene] at first
  have named := Scene.select_columns selected known
  refine ⟨table, target, parsed, ⟨found, after, queried, starts⟩, seen, first, ?_, valued⟩
  rw [ResultSet.first?, ResultSet.toRows, List.head?_map, Option.map_eq_some_iff] at starts
  obtain ⟨_, -, rfl⟩ := starts
  exact named

/-- A column that is selected is shown by the name that the table has for it, with the value that
the row has there. -/
theorem Shows.column (shows : server.Shows id command query table target row)
    (selected : query.items[place]? = some (.column name)) :
    ∃ index, table.columnIndex name = .ok index ∧
      row.columns[place]? = some (table.columnName index) ∧
      row.values[place]? = some (target.cell index) := by
  have named := Checked.mapM_getElem? shows.named place
  have valued := Checked.mapM_getElem? shows.valued place
  rw [selected, Option.map_some] at named valued
  obtain ⟨shown, listed, named⟩ := Option.map_eq_some_iff.1 named
  obtain ⟨value, held, valued⟩ := Option.map_eq_some_iff.1 valued
  cases found : table.columnIndex name with
  | error fault =>
    rw [Scene.itemName, found] at named
    cases named
  | ok index =>
    rw [Scene.itemName, found] at named
    rw [Scene.project, columnValue, found] at valued
    cases named
    cases valued
    exact ⟨index, rfl, listed, held⟩

variable {payload : String} {columns : List String}

/-- A row is shown as the path locator and the token, which have no names, and columns. -/
theorem Shows.column_cases (shows : server.Shows id command query table target row)
    (items : query.items = .pathName payload :: .transactionContext :: columns.map .column)
    {shown : String} (listed : row.columns[place]? = some shown) :
    shown = "" ∨ ∃ name index, query.items[place]? = some (.column name) ∧
      table.columnIndex name = .ok index ∧ shown = table.columnName index ∧
      row.values[place]? = some (target.cell index) := by
  have named := Checked.mapM_getElem? shows.named place
  rw [listed, Option.map_some] at named
  obtain ⟨item, selected, known⟩ := Option.map_eq_some_iff.1 named.symm
  match place with
  | 0 =>
    rw [items] at selected
    cases selected
    cases known
    exact .inl rfl
  | 1 =>
    rw [items] at selected
    cases selected
    cases known
    exact .inl rfl
  | place + 2 =>
    obtain ⟨name, rfl⟩ : ∃ name, item = .column name := by
      rw [items, List.getElem?_cons_succ, List.getElem?_cons_succ, List.getElem?_map] at selected
      obtain ⟨name, -, rfl⟩ := Option.map_eq_some_iff.1 selected
      exact ⟨name, rfl⟩
    obtain ⟨index, found, also, held⟩ := shows.column selected
    exact .inr ⟨name, index, selected, found, Option.some.inj (listed.symm.trans also), held⟩

/-- **A name without brackets finds the value that was selected for it**, if it is not empty. -/
theorem Shows.value? (shows : server.Shows id command query table target row)
    (items : query.items = .pathName payload :: .transactionContext :: columns.map .column)
    (selected : query.items[place]? = some (.column name)) (closed : ']' ∉ name.toList)
    (nonempty : name ≠ "") :
    row.value? name = row.values[place]? := by
  obtain ⟨index, found, shown, held⟩ := shows.column selected
  rw [held]
  have strip : Bracket.strip name = name := Bracket.strip_of_not_mem closed
  refine ResultRow.value?_of_all ⟨_, List.mem_of_getElem? shown, ?_⟩ ?_
  · rw [← strip]
    exact Table.sameLetters_of_columnIndex found
  · intro elsewhere other there same
    rcases shows.column_cases items there with rfl | ⟨also, index', -, foundToo, rfl, heldToo⟩
    · -- What has no name does not have the letters of one that is not empty.
      have empty : name.toList = [] := by
        simpa [Text.lower] using (eq_of_beq same).symm
      exact absurd (String.toList_eq_nil_iff.1 empty) nonempty
    · rw [← strip] at same
      rw [heldToo, Table.columnIndex_unique found foundToo same]

end Engine.Server

/-! ## Streams -/

/-- The query for the handle projects a property: at the place of the property, after the path
locator and the token, it asks for the column that the mapped name calls, and shows the value that
the row of the table has there. -/
structure Descriptor.Projects (descriptor : Descriptor) (query : Select) (table : Table)
    (target : TableRow) (row : ResultRow) (property column name : String) (raw : Value) : Prop where
  called : Calls column name
  asked : ∃ place, descriptor.scalarColumns[place]? = some (property, column) ∧
    query.items[place + 2]? = some (.column name) ∧ row.values[place + 2]? = some raw
  stored : ∃ index, table.columnIndex name = .ok index ∧ target.cell index = raw

/-- Where two lists are related, what the one has at a place is related to what the other has
there. -/
theorem exists_of_forall₂ {α β : Type} {related : α → β → Prop} {left : List α} {right : List β}
    (all : List.Forall₂ related left right) {place : Nat} {element : α}
    (there : left[place]? = some element) :
    ∃ other, right[place]? = some other ∧ related element other := by
  obtain ⟨lengths, each⟩ := List.forall₂_iff_get.1 all
  obtain ⟨inside, rfl⟩ := List.getElem?_eq_some_iff.1 there
  exact ⟨right[place], List.getElem?_eq_getElem (lengths ▸ inside), each place inside _⟩

namespace Stream

variable {schema : Schema ρ} {options : Options Server ε}

/-- **A stream that may be read has set every field whose column is written plainly** to the value
that the query for the handle projects for it. Take any server, context and table, and a descriptor
whose columns are written as names. If a stream opens with an access that includes reading, the
query for the handle has shown a row first, and the record was filled from it. The query projects
every mapped property but the payload, however its column is written. A field whose column is a word
or a name in brackets, with nothing around it, had its setter called with that very value as the
type of the field reads it. A field whose column is written otherwise is passed over, unless a
column that is shown has the whole text without its brackets for its name. -/
theorem reading_sets_plain_fields {context : Context} {world opened : World Server ε}
    {stream : Stream Server ε ρ} (named : context.descriptor.ColumnsNamed)
    (reads : options.access.canRead = true)
    (opens : (openOn context schema options).perform world = (.ok stream, opened)) :
    ∃ filter ready query table target row record,
      (prepareRow options).perform ⟨world, context⟩ = (.ok filter, ready) ∧
      ready.store.Shows context.connection
        (Lifecycle.handleQuery context.descriptor filter true) query table target row ∧
      stream.row = some record ∧
      ∀ place field column, schema.fields[place]? = some field →
        context.descriptor.columns.get? field.name = some column →
        field.name ≠ context.descriptor.payload →
        ∃ name raw,
          context.descriptor.Projects query table target row field.name column name raw ∧
          (∀ plain, Descriptor.Plain column plain →
            ∃ value after, field.type.read plain raw = .ok value ∧
              Materialize.Sets schema context.descriptor [context.descriptor.payload] row record
                place value after) ∧
          ((∀ shown ∈ row.columns, Text.sameLetters shown (Bracket.strip column) = false) →
            ∀ before, Materialize.fill context.descriptor [context.descriptor.payload] row before
              field = .ok before) := by
  obtain ⟨filter, ⟨ready, own⟩, found, finish, prepared, done, rfl, -⟩ := openOn_cases opens
  obtain rfl : own = context := (prepareRow_ok prepared).1
  obtain ⟨result, row, token, asked, _, queried, starts, rebuilds, -⟩ := openRow_steps done
  rw [reads] at queried
  obtain ⟨-, statement, -, parsed, -⟩ := Server.query_cases queried
  obtain ⟨query, payload, columns, rfl, items, calls⟩ := named.handleQuery_items parsed
  obtain ⟨table, target, shows⟩ := Server.shows_of_query parsed queried starts
  rw [recordOf, if_pos reads] at rebuilds
  obtain ⟨record, filled, isRecord⟩ := Checked.map_ok rebuilds
  refine ⟨filter, ⟨ready, own⟩, query, table, target, row, record, prepared, shows, isRecord.symm,
    ?_⟩
  intro place field column declared mapped other
  have scalar : (field.name, column) ∈ own.descriptor.scalarColumns :=
    List.mem_filter.2 ⟨OrderedMap.mem_of_get? mapped, by simpa using other⟩
  obtain ⟨number, listed⟩ := List.mem_iff_getElem?.1 scalar
  obtain ⟨name, isColumn, called⟩ :
      ∃ name, columns[number]? = some name ∧ Descriptor.Calls column name :=
    exists_of_forall₂ calls (by rw [List.getElem?_map, listed, Option.map_some])
  have selected : query.items[number + 2]? = some (.column name) := by
    rw [items, List.getElem?_cons_succ, List.getElem?_cons_succ, List.getElem?_map, isColumn,
      Option.map_some]
  obtain ⟨index, stored, -, held⟩ := shows.column selected
  have wanted : field.name ∉ [own.descriptor.payload] := by simpa using other
  have source := Materialize.source?_of_mapped row wanted mapped
  refine ⟨name, target.cell index, ⟨called, ⟨number, listed, selected, held⟩, ⟨index, stored, rfl⟩⟩,
    fun plain isPlain => ?_, fun unshown before => ?_⟩
  · obtain rfl := isPlain.calls_iff.1 called
    have value := shows.value? items selected isPlain.closed isPlain.nonempty
    rw [isPlain.strip_eq, value, held] at source
    exact Materialize.sets_of_source filled declared source
  · rw [ResultRow.value?_eq_none unshown] at source
    exact Materialize.fill_of_none source

end Stream

/-! ## Recordings -/

namespace Sample

/-- Recordings whose numbers and titles are mapped to some columns. -/
def mapped (id title : String) : Descriptor where
  table := "Recordings"
  columns := ((OrderedMap.empty.insert "id" id).insert "title" title).insert "sound" "[Sound]"
  identifier := some "id"
  payload := "sound"
  payloadColumn := "[Sound]"
  payload_mapped := rfl
  identifier_mapped := by
    rintro _ ⟨⟩
    exact ⟨rfl, by decide⟩

/-- The columns of recordings are names if those of numbers and titles are. -/
theorem columnsNamed_mapped {id title : String}
    (idNamed : ∃ tokens parts, tokenize id = .ok tokens ∧ IsName tokens parts)
    (titleNamed : ∃ tokens parts, tokenize title = .ok tokens ∧ IsName tokens parts) :
    (mapped id title).ColumnsNamed := by
  intro property column known
  simp only [mapped, OrderedMap.get?_insert] at known
  split at known
  · cases known
    exact ⟨[.quoted "Sound"], ["Sound"], by cbv, .last (.quoted _)⟩
  split at known
  · cases known
    exact titleNamed
  split at known
  · cases known
    exact idNamed
  · cases known

/-- A server with one recording, whose title is in a column of some name, and a transaction in
progress. -/
def shelf (title : String) : Server :=
  let server := (((Server.ofSecret [1, 2, 3]).createTable
    ((((Table.empty "Recordings").withKey "Id").withColumn title).withPayload "Sound")).connect
      settings).2
  ((server.execute 0 (.ofText ("INSERT INTO Recordings ([Id], [" ++ title ++
    "], [Sound]) VALUES (7, 'Dawn', 0x)"))).2.beginTransaction 0).2

/-- Open a recording to read it. -/
def opening (filter : Predicate Unit) : Options Server Unit :=
  ⟨.openExisting, .read, filter, none, none⟩

/-- What the query for the handle shows of a recording after the path locator and the token. -/
def projected? (server : Server) (descriptor : Descriptor) (filter : Predicate Unit) :
    Option (List Value) := do
  let clause ← ((filter.compile descriptor).perform ()).1.toOption
  let result ← (server.query 0 (Lifecycle.handleQuery descriptor clause true)).1.toOption
  let row ← result.first?
  return row.values.drop 2

/-- The record of a stream that is opened to read a recording. -/
def rebuilt? (server : Server) (descriptor : Descriptor) (filter : Predicate Unit) :
    Option (Value × Value) := do
  let stream ← ((Stream.openOn ⟨descriptor, 0, true, .active⟩ pairs (opening filter)).perform
    ⟨server, ()⟩).1.toOption
  stream.row

/-- A record that is read is that of a stream that has opened. -/
theorem opens_of_rebuilt? {server : Server} {descriptor : Descriptor} {filter : Predicate Unit}
    {record : Value × Value} (read : rebuilt? server descriptor filter = some record) :
    ∃ stream opened, (Stream.openOn ⟨descriptor, 0, true, .active⟩ pairs (opening filter)).perform
      ⟨server, ()⟩ = (.ok stream, opened) ∧ stream.row = some record := by
  obtain ⟨stream, done, isRecord⟩ := Option.bind_eq_some_iff.1 read
  exact ⟨stream, _, Prod.ext (Checked.eq_ok_of_toOption done) rfl, isRecord⟩

end Sample

/-- The title of a recording is set to what the query projects for it, though its column is in
brackets and in other letters than the table has it in. -/
theorem reading_sets_plain_fields_dawn :
    let descriptor := Sample.mapped "id" "[TITLE]"
    let opening := (Stream.openOn ⟨descriptor, 0, true, .active⟩ Sample.pairs
      (Sample.opening Sample.seventh)).perform ⟨Sample.shelf "Title", ()⟩
    (descriptor.ColumnsNamed ∧ (Sample.opening Sample.seventh).access.canRead = true ∧
      ∃ stream opened, opening = (.ok stream, opened) ∧
        stream.row = some (.bigInt 7, .text "Dawn")) ∧
      ∃ query table target row raw value after,
        descriptor.Projects query table target row "title" "[TITLE]" "TITLE" raw ∧
        (FieldType.optional .nvarChar).read "TITLE" raw = .ok value ∧
        Materialize.Sets Sample.pairs descriptor ["sound"] row (.bigInt 7, .text "Dawn") 1 value
          after := by
  have named : (Sample.mapped "id" "[TITLE]").ColumnsNamed :=
    Sample.columnsNamed_mapped ⟨[.word "id"], ["id"], by cbv, .last (.word _)⟩
      ⟨[.quoted "TITLE"], ["TITLE"], by cbv, .last (.quoted _)⟩
  have read : Sample.rebuilt? (Sample.shelf "Title") (Sample.mapped "id" "[TITLE]") Sample.seventh =
      some (.bigInt 7, .text "Dawn") := by decide +kernel
  obtain ⟨stream, opened, opens, isRecord⟩ := Sample.opens_of_rebuilt? read
  refine ⟨⟨named, rfl, stream, opened, opens, isRecord⟩, ?_⟩
  obtain ⟨_, _, query, table, target, row, record, -, -, filled, each⟩ :=
    Stream.reading_sets_plain_fields named rfl opens
  obtain rfl : (.bigInt 7, .text "Dawn") = record := Option.some.inj (isRecord.symm.trans filled)
  obtain ⟨name, raw, projects, plainly, -⟩ := each 1 _ "[TITLE]" rfl (by cbv) (by decide)
  have plain : Descriptor.Plain ("[" ++ "TITLE" ++ "]") "TITLE" :=
    .bracketed (by decide) (by decide)
  obtain rfl := plain.calls_iff.1 projects.called
  obtain ⟨value, after, typed, sets⟩ := plainly _ plain
  exact ⟨query, table, target, row, raw, value, after, projects, typed, sets⟩

/-- A field may be passed over though its column is shown. A title that is qualified by its table,
or has a blank before it, is projected, and the record keeps the title of a blank one. A title in a
column without a name is read from the first column of the query, which is the locator. And where
the column of another field is no name, the text of the query up to the next closing bracket may
become one, and the title is not asked for. -/
theorem qualified_title_stays_blank :
    Sample.projected? (Sample.shelf "Title") (Sample.mapped "[Id]" "Recordings.[Title]")
        Sample.seventh = some [.bigInt 7, .text "Dawn"] ∧
      Sample.rebuilt? (Sample.shelf "Title") (Sample.mapped "[Id]" "Recordings.[Title]")
        Sample.seventh = some (.bigInt 7, .text "untitled") ∧
    Sample.projected? (Sample.shelf "Title") (Sample.mapped "[Id]" " [Title]")
        Sample.seventh = some [.bigInt 7, .text "Dawn"] ∧
      Sample.rebuilt? (Sample.shelf "Title") (Sample.mapped "[Id]" " [Title]")
        Sample.seventh = some (.bigInt 7, .text "untitled") ∧
    Sample.projected? (Sample.shelf "") (Sample.mapped "[Id]" "[]")
        Sample.seventh = some [.bigInt 7, .text "Dawn"] ∧
      Sample.rebuilt? (Sample.shelf "") (Sample.mapped "[Id]" "[]")
        Sample.seventh = some (.bigInt 7, .text "\\\\memory\\Recordings\\1") ∧
    Sample.projected? (Sample.shelf "Title")
        (Sample.mapped "[Id] FROM Recordings WHERE (1 = 1 OR [" "Title")
        (.columnEquals "sound" (.text "")) = some [.bigInt 7] ∧
      Sample.rebuilt? (Sample.shelf "Title")
        (Sample.mapped "[Id] FROM Recordings WHERE (1 = 1 OR [" "Title")
        (.columnEquals "sound" (.text "")) = some (.null, .text "untitled") := by
  refine ⟨?_, ?_, ?_, ?_, ?_, ?_, ?_, ?_⟩ <;> decide +kernel

end RowPayload
