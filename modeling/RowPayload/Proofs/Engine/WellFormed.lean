import RowPayload.Proofs.Engine.Conduct
import RowPayload.Proofs.Engine.Keys

/-!
# Well-formed tables

Tables are made column by column and filed without rows, and from then on statements and payloads
that are written back change their rows only. So their rows have a value for each column, and the
place of the key is that of a column: in the committed tables and in what transactions see,
whatever a server is asked for. And every number that was given out for a handle is that of a
handle that was opened on a cell of such a table, which goes on being there for as long as the
handle's transaction goes on.
-/

namespace RowPayload.Engine

/-! ## Tables -/

/-- A table as it is stored: it is sound, its key is one of its columns and one for scalars, and the
next row has the number after that of the last, since no row was ever removed. -/
structure Table.WellFormed (table : Table) : Prop extends table.Sound where
  keyed : ∀ column, table.key = some column → column < table.columns.length
  scalarKey : table.ScalarKey
  counted : table.nextRowId = table.rows.length + 1

namespace Table

variable {table : Table}

/-- A table made column by column has no rows and is well formed. -/
theorem Built.wellFormed (built : table.Built) : table.WellFormed := by
  have fresh : table.rows = [] ∧ table.nextRowId = 1 := by
    induction built with
    | empty => exact ⟨rfl, rfl⟩
    | withColumn _ _ inductionHypothesis => exact inductionHypothesis
    | withKey _ _ inductionHypothesis => exact inductionHypothesis
    | withPayload _ _ inductionHypothesis => exact inductionHypothesis
  refine ⟨sound_of_no_rows fresh.1, fun column key => ?_, built.scalarKey,
    by rw [fresh.1, fresh.2]; rfl⟩
  obtain ⟨defined, found, -⟩ := Option.map_eq_some_iff.1 (built.scalarKey column key)
  exact (List.getElem?_eq_some_iff.1 found).1

/-- Setting a cell keeps a table well formed. -/
theorem WellFormed.setCell (wellFormed : table.WellFormed) (id column : Nat) (value : Value) :
    (table.setCell id column value).WellFormed where
  toSound := wellFormed.toSound.setCell id column value
  keyed := wellFormed.keyed
  scalarKey := wellFormed.scalarKey
  counted := by
    show table.nextRowId = (table.rows.map _).length + 1
    rw [List.length_map]
    exact wellFormed.counted

/-- A row that is inserted is counted. -/
theorem WellFormed.counted_insert (wellFormed : table.WellFormed) {values : List Value}
    {grown : Table} (inserted : table.insert values = .ok grown) :
    grown.nextRowId = grown.rows.length + 1 := by
  unfold Table.insert at inserted
  split at inserted
  · cases inserted
  · cases inserted
    simp [wellFormed.counted]

end Table

/-- Every table a statement sees is well formed. -/
def Scene.WellFormed (scene : Scene) : Prop :=
  ∀ name table, scene.table? name = some table → table.WellFormed

/-- A statement that runs on well-formed tables writes a well-formed table. -/
theorem Scene.wellFormed_of_run {scene : Scene} {statement : Sql.Statement} {effect : Effect}
    {file : String} {table : Table} (wellFormed : scene.WellFormed)
    (ran : scene.run statement = .ok effect) (written : effect.written = some (file, table)) :
    table.WellFormed := by
  obtain ⟨before, seen, key, columns, rows⟩ := written_cases ran written
  have earlier := wellFormed file before seen
  constructor
  case toSound =>
    exact sound_run (fun name seen found => (wellFormed name seen found).toSound) ran written
  case keyed =>
    rw [key, columns]
    exact earlier.keyed
  case scalarKey =>
    rw [Table.ScalarKey, key, columns]
    exact earlier.scalarKey
  case counted =>
    rcases rows with ⟨values, inserted⟩ | ⟨update, -, -, cells, marked, -, rows, rfl⟩
    · exact earlier.counted_insert inserted
    · show before.nextRowId = (marked.map _).length + 1
      rw [List.length_map, ← List.length_map Prod.fst, rows]
      exact earlier.counted

/-! ## Servers -/

/-- A table that a request files was made column by column. -/
def Request.FilesBuilt : Request → Prop
  | .createTable table _ => table.Built
  | _ => True

/-- The servers that requests lead to, all of whose tables were made column by column. -/
inductive Server.Founded : Server → Prop where
  | start (secret : Bytes) : Founded (.ofSecret secret)
  | serve {server : Server} (founded : Founded server) (request : Request)
      (built : request.FilesBuilt) : Founded (request.serve server)

namespace Server

/-- A founded server is reachable. -/
theorem Founded.reachable {server : Server} (founded : server.Founded) : server.Reachable := by
  induction founded with
  | start secret => exact .start secret
  | serve _ request _ inductionHypothesis => exact .serve inductionHypothesis request

/-- A request to the server as a whole keeps tables well formed. -/
theorem Tables.wellFormed_serve {server : Server}
    (tables : server.Tables fun _ table => table.WellFormed) {request : Request}
    (whole : request.subject = .server) (built : request.FilesBuilt) :
    (request.serve server).Tables fun _ table => table.WellFormed := by
  cases request with
  | createTable table blank =>
    have filed : table.Built := built
    exact tables.insertTable filed.wellFormed
  | resetCounters | refuseNextBegin | refuseNextCommit => exact tables.of_eq rfl fun _ => rfl
  | connect settings =>
    show (server.connect settings).2.Tables _
    unfold Server.connect
    split
    · exact tables
    · exact tables.connect.of_eq rfl fun _ => rfl
  | _ => cases whole

/-- **Tables stay well formed**, whatever a server is asked for. -/
theorem Founded.tables {server : Server} (founded : server.Founded) :
    server.Tables fun _ table => table.WellFormed := by
  induction founded with
  | start secret => exact ⟨nofun, nofun⟩
  | @serve server _ request built inductionHypothesis =>
    by_cases whole : request.subject = .server
    · exact inductionHypothesis.wellFormed_serve whole built
    · refine keeps_changes (changes_serve server request) inductionHypothesis ?_
      exact fun change tables => tables.change (fun same => absurd same whole)
        Scene.wellFormed_of_run (fun id column value held => held.setCell id column value) change

/-! ## Handles -/

/-- Running a statement leaves the handles alone. -/
theorem handles_run (server : Server) (id : Nat) (command : Command) :
    (server.run id command).2.handles = server.handles := by
  by_cases closed : server.connection id = .closed
  · simp only [run, closed]
  rw [run_of_alive closed, runOpen]
  split
  · rfl
  · split
    · rfl
    · rename_i effect _
      show (server.absorb id (server.connection id) effect.written).handles = _
      cases effect.written with
      | none => rfl
      | some entry => cases server.connection id <;> rfl

/-- A request on a connection leaves the handles alone unless it opens a payload. -/
theorem handles_serve {server : Server} {request : Request} {id : Nat}
    (connected : request.subject = .connection id)
    (other : ∀ id path token access, request ≠ .openPayload id path token access) :
    (request.serve server).handles = server.handles := by
  cases request with
  | beginTransaction id =>
    show (server.beginTransaction id).2.handles = _
    unfold beginTransaction
    split
    · rfl
    · rfl
    · split <;> rfl
  | commit id =>
    show (server.commit id).2.handles = _
    unfold commit
    split
    · rfl
    · rfl
    · dsimp only
      split <;> rfl
  | rollback id =>
    show (server.rollback id).2.handles = _
    unfold rollback
    split <;> rfl
  | close id =>
    show (server.close id).handles = _
    unfold close
    split <;> rfl
  | release id => rfl
  | execute id command => rw [Request.serve, execute_snd, handles_run]
  | query id command =>
    rw [Request.serve, query_snd, handles_run]
    rfl
  | openPayload id path token access => exact absurd rfl (other id path token access)
  | _ => cases connected

/-- A change of the server as a whole or of a payload gives out no number for a handle. -/
theorem next_of_change {subject : Subject} {before after : Server}
    (apart : ∀ id, subject ≠ .connection id) (change : Change subject before after) :
    after.handles.next = before.handles.next := by
  cases change with
  | recount _ _ handles _ => rw [handles]
  | createTable | connect | setHandle | writeCell | free => rfl
  | _ => exact absurd rfl (apart _)

/-- Opening a payload fails, or gives out the next number for a handle. -/
theorem openPayload_cases (server : Server) (id : Nat) (path : String) (token : Bytes)
    (access : Access) :
    (∃ failure, server.openPayload id path token access = (.error failure, server)) ∨
      ∃ after, server.openPayload id path token access = (.ok server.handles.next, after) ∧
        after.handles.next = server.handles.next + 1 := by
  unfold openPayload
  split
  · exact .inl ⟨_, rfl⟩
  · exact .inl ⟨_, rfl⟩
  · split
    · exact .inl ⟨_, rfl⟩
    · split
      · exact .inl ⟨_, rfl⟩
      · exact .inr ⟨_, rfl, rfl⟩

/-- A number for a handle is given out only by opening a payload. -/
theorem next_serve (server : Server) (request : Request) :
    (request.serve server).handles.next = server.handles.next ∨
      ∃ id path token access after, request = .openPayload id path token access ∧
        server.openPayload id path token access = (.ok server.handles.next, after) ∧
        after.handles.next = server.handles.next + 1 := by
  by_cases opens : ∃ id path token access, request = .openPayload id path token access
  · obtain ⟨id, path, token, access, rfl⟩ := opens
    rcases server.openPayload_cases id path token access with
      ⟨failure, failed⟩ | ⟨after, opened, next⟩
    · exact .inl (by rw [Request.serve, failed])
    · exact .inr ⟨id, path, token, access, after, rfl, opened, next⟩
  · refine .inl ?_
    by_cases connected : ∃ id, request.subject = .connection id
    · obtain ⟨id, connected⟩ := connected
      rw [handles_serve connected fun id path token access same =>
        opens ⟨id, path, token, access, same⟩]
    · refine keeps_changes (changes_serve server request) rfl fun change same => ?_
      exact (next_of_change (fun id same => connected ⟨id, same⟩) change).trans same

end Server

/-- What happened on a server goes on with any request. -/
theorem HandleRun.serve {number : Nat} {start server : Server}
    {history : List (PayloadRequest × OwnAnswer)} (run : HandleRun number start history server)
    (request : Request) : ∃ more, HandleRun number start more (request.serve server) := by
  by_cases own : request.subject = .payload number
  · cases request with
    | call payload operation =>
      cases own
      exact ⟨_, run.own (.call operation)⟩
    | closePayload payload =>
      cases own
      exact ⟨_, run.own .close⟩
    | releasePayload payload =>
      cases own
      exact ⟨_, run.own .release⟩
    | _ => cases own
  · exact ⟨_, run.other request own⟩

namespace Server

/-- **Every handle was opened**: a number that was given out for a handle is that of a handle which
was opened on a cell, and after which the server has run on. -/
theorem Reachable.exists_run {server : Server} (reached : server.Reachable) {number : Nat}
    (given : number < server.handles.next) : ∃ place access start history,
      OpenedOn place access number start ∧ HandleRun number start history server := by
  induction reached with
  | start secret => exact absurd given (Nat.not_lt_zero _)
  | @serve server reached request inductionHypothesis =>
    by_cases earlier : number < server.handles.next
    · obtain ⟨place, access, start, history, opened, run⟩ := inductionHypothesis earlier
      obtain ⟨more, run⟩ := run.serve request
      exact ⟨place, access, start, more, opened, run⟩
    · rcases server.next_serve request with
        same | ⟨id, path, token, access, after, rfl, opened, next⟩
      · omega
      · rw [Request.serve, opened] at given ⊢
        dsimp only at given
        obtain rfl : number = server.handles.next := by omega
        obtain ⟨transaction, address, -, -, -, openedOn⟩ := exists_openedOn reached opened
        exact ⟨_, access, after, [], openedOn, .start⟩

/-- The cell of a handle that is open is there for as long as the handle's transaction goes on. -/
theorem Reachable.cellThere {server : Server} (reached : server.Reachable) {number : Nat}
    {handle : Handle} (found : server.handles.get? number = some handle)
    (isOpen : handle.isOpen = true) : handle.place.CellThere server := by
  have given := (reached.numbered.handles number handle found).1
  obtain ⟨place, access, start, history, opened, run⟩ := reached.exists_run given
  obtain ⟨transaction, table, held, same, cellIn⟩ := opened.cell
  have there {history : List (PayloadRequest × OwnAnswer)} {last : Server}
      (run : HandleRun number start history last) : place.CellThere last :=
    run.cellThere opened.reached held same cellIn
  have tracks := run.tracks opened.clean there
  have running : HandleState.ofHistory history ≠ .closed := fun closed => by
    rw [tracks.shut closed handle found] at isOpen
    cases isOpen
  obtain ⟨other, known, placed, -⟩ := tracks.running running
  obtain rfl : handle = other := Option.some.inj (found.symm.trans known)
  exact placed ▸ there run

end Server

end RowPayload.Engine

namespace RowPayload.Sample

open Engine

/-- The table of the archive was made column by column. -/
theorem founded_server : server.Founded :=
  .serve (.start [1, 2, 3]) (.createTable table rfl)
    (.withPayload (.withColumn (.withKey (.empty _) _) _) _)

end RowPayload.Sample
