import RowPayload.Proofs.Engine.Filing
import RowPayload.Proofs.Engine.Isolation
import RowPayload.Proofs.Engine.Lasting
import RowPayload.Proofs.Engine.View

/-!
# What handles do

A handle is clean, has unsaved changes, or is closed, and which of these it is follows from what
it was asked for and what it answered. Each call edits the handle's copy or fails. Writing back
puts the content of a handle that is dirty into the cell it was opened on, as long as the handle's
transaction goes on and the cell is there, and changes nothing else.
-/

namespace RowPayload

/-- Whether a call makes a handle dirty if it does not fail. -/
def FileOperation.edits : FileOperation → Bool
  | .write _ | .setLength _ => true
  | _ => false

namespace Engine

/-! ## What a handle was asked for -/

/-- What requests have left a handle as. -/
inductive HandleState where
  | clean
  | unsaved
  | closed
deriving DecidableEq

/-- What a request that was answered leaves a handle as. -/
def HandleState.after : HandleState → PayloadRequest × OwnAnswer → HandleState
  | .closed, _ | _, (.close, _) | _, (.release, _) => .closed
  | _, (.call (.write _), .called (.ok _)) | _, (.call (.setLength _), .called (.ok _)) => .unsaved
  | _, (.call .flush, .called (.ok _)) => .clean
  | state, _ => state

/-- What all that a handle was asked for has left it as. -/
def HandleState.ofHistory (history : List (PayloadRequest × OwnAnswer)) : HandleState :=
  history.foldl HandleState.after .clean

/-- Whether a request makes a handle write its changes back. -/
def PayloadRequest.WritesBack : PayloadRequest → Prop
  | .call .flush | .close | .release => True
  | _ => False

/-! ## What a handle does to its server -/

/-- Nothing has changed but a handle. -/
structure ChangesHandleOnly (number : Nat) (before after : Server) : Prop where
  frame : { after with handles := before.handles } = before
  others : ∀ other, other ≠ number → after.handles.get? other = before.handles.get? other

/-- Where a handle was opened: the connection, the number of the transaction, and the cell. -/
structure HandlePlace where
  connection : Nat
  transaction : Nat
  address : CellAddress

/-- Where a handle was opened. -/
def Handle.place (handle : Handle) : HandlePlace :=
  ⟨handle.connection, handle.transaction, handle.address⟩

/-- The transaction that a handle was opened in is in progress. -/
def HandlePlace.InProgress (place : HandlePlace) (server : Server) : Prop :=
  ∃ transaction, server.connection place.connection = .inTransaction transaction ∧
    transaction.number = place.transaction

/-- The cell that a handle was opened on, which is one of a payload column, is in a table that a
transaction sees. -/
structure HandlePlace.CellIn (place : HandlePlace) (transaction : Transaction) (table : Table) :
    Prop where
  seen : transaction.table? place.address.table = some table
  column : table.payloadIndex? = some place.address.column
  row : place.address.row ∈ table.rows.map TableRow.id

/-- The content of a handle was put into the cell it was opened on. In the handle's transaction
the table of the cell was written, in which no other cell has changed, and apart from the handle
that is all that has changed. -/
structure WritesCell (place : HandlePlace) (number : Nat) (before after : Server)
    (handle : Handle) (transaction : Transaction) (table written : Table) : Prop where
  found : before.handles.get? number = some handle
  held : before.connection place.connection = .inTransaction transaction
  same : transaction.number = place.transaction
  cellIn : place.CellIn transaction table
  cell : table.CellChanged written place.address.row place.address.column
    (.bytes handle.file.content)
  frame : { after with handles := before.handles } = before.setConnection place.connection
    (.inTransaction (transaction.writeTable place.address.table written))
  others : ∀ other, other ≠ number → after.handles.get? other = before.handles.get? other

namespace ChangesHandleOnly

variable {number : Nat} {first second third server : Server}

/-- Doing nothing changes the handle only. -/
theorem refl (number : Nat) (server : Server) : ChangesHandleOnly number server server :=
  ⟨rfl, fun _ _ => rfl⟩

/-- Changing the handle twice changes the handle only. -/
theorem trans (earlier : ChangesHandleOnly number first second)
    (later : ChangesHandleOnly number second third) : ChangesHandleOnly number first third where
  frame := by
    rw [← earlier.frame, ← later.frame]
  others := fun other different =>
    (later.others other different).trans (earlier.others other different)

/-- Replacing a handle changes it only. -/
theorem setHandle (server : Server) (number : Nat) (handle : Handle) :
    ChangesHandleOnly number server (server.setHandle number handle) where
  frame := rfl
  others := fun _ different => Slots.get?_set_of_ne different

/-- Freeing a handle changes it only. -/
theorem free (server : Server) (number : Nat) :
    ChangesHandleOnly number server { server with handles := server.handles.free number } where
  frame := rfl
  others := fun _ different => Slots.get?_free_of_ne different

/-- Work on a handle changes the handle only. -/
theorem onHandle {α : Type} (server : Server) (number : Nat)
    (work : Handle → Except IoFault (α × Handle)) :
    ChangesHandleOnly number server (server.onHandle number work).2 := by
  unfold Server.onHandle
  split
  · exact refl number server
  · split
    · exact refl number server
    · exact setHandle server number _

/-- A call other than a flush changes the handle only. -/
theorem call {operation : FileOperation} (calm : operation ≠ .flush) (server : Server)
    (number : Nat) : ChangesHandleOnly number server
      ((PayloadRequest.call operation).serve server number).2 := by
  cases operation <;> simp only [PayloadRequest.serve, FileOperation.perform, Work.perform_map]
  case flush => exact absurd rfl calm
  case length => exact refl number server
  all_goals exact onHandle server number _

end ChangesHandleOnly

/-! ## Calls -/

/-- Work on a handle that only edits the handle's copy: it fails or changes the copy, and it fails
on a handle that is closed. Whether it makes the handle dirty is told, and then the handle was
opened for writing. -/
structure Handle.Edits {α : Type} (edits : Bool) (work : Handle → Except IoFault (α × Handle)) :
    Prop where
  closed : ∀ handle, handle.isOpen = false → work handle = .error .handleClosed
  outcome : ∀ handle, (∃ fault, work handle = .error fault) ∨
    ∃ answer file, work handle = .ok (answer,
      { handle with file := file, dirty := edits || handle.dirty }) ∧
      (edits = true → handle.access.canWrite = true)

namespace Handle

/-- Work on the copy of a handle, behind a check that no closed handle passes and, if the copy is
changed, only one that was opened for writing. -/
theorem Edits.checked {α : Type} {edits : Bool} {work : Handle → Except IoFault (α × Handle)}
    (check : Handle → Except IoFault Unit) (run : ByteFile → Except IoFault (α × ByteFile))
    (works : ∀ handle, work handle = (check handle).bind fun _ => (run handle.file).map
      fun done => (done.1, { handle with file := done.2, dirty := edits || handle.dirty }))
    (closed : ∀ handle, handle.isOpen = false → check handle = .error .handleClosed)
    (writable : ∀ handle, check handle = .ok () → edits = true → handle.access.canWrite = true) :
    Edits edits work where
  closed := by
    intro handle shut
    rw [works, closed handle shut]
    rfl
  outcome := by
    intro handle
    rw [works]
    cases passed : check handle with
    | error fault => exact .inl ⟨fault, rfl⟩
    | ok _ =>
      cases run handle.file with
      | error fault => exact .inl ⟨fault, rfl⟩
      | ok done => exact .inr ⟨done.1, done.2, rfl, writable handle passed⟩

/-- A handle that passes the check for writing was opened for it. -/
theorem canWrite_of_requireWritable {handle : Handle} (passed : handle.requireWritable = .ok ()) :
    handle.access.canWrite = true := by
  unfold requireWritable at passed
  split at passed
  · cases passed
  · split at passed
    · assumption
    · cases passed

/-- Reading edits nothing. -/
theorem edits_read (count : Nat) : Edits false (·.read count) :=
  .checked requireReadable (fun file => .ok (file.read count)) (fun _ => rfl)
    (fun handle shut => by simp [requireReadable, shut]) (by simp)

/-- Writing makes a handle dirty. -/
theorem edits_write (data : Bytes) : Edits true (·.write data) :=
  .checked requireWritable (fun file => .ok (data.length, file.write data)) (fun _ => rfl)
    (fun handle shut => by simp [requireWritable, shut])
    fun _ passed _ => canWrite_of_requireWritable passed

/-- Seeking edits nothing. -/
theorem edits_seek (destination : SeekTarget) : Edits false (·.seek destination) := by
  refine .checked requireOpen
    (fun file => (file.seek destination).map fun sought => (sought.position, sought)) ?_
    (fun handle shut => by simp [requireOpen, shut]) (by simp)
  intro handle
  rw [seek]
  cases handle.file.seek destination <;> rfl

/-- Setting the length makes a handle dirty. -/
theorem edits_setLength (length : Nat) : Edits true (·.setLength length) :=
  .checked requireWritable (fun file => .ok ((), file.setLength length)) (fun _ => rfl)
    (fun handle shut => by simp [requireWritable, shut])
    fun _ passed _ => canWrite_of_requireWritable passed

end Handle

namespace Server

variable {α : Type} {server : Server} {number : Nat} {handle : Handle}
variable {work : Handle → Except IoFault (α × Handle)}

/-- Work that fails on a handle fails and changes nothing. -/
theorem onHandle_error (found : server.handles.get? number = some handle) {fault : IoFault}
    (failed : work handle = .error fault) :
    server.onHandle number work = (.error fault, server) := by
  simp [onHandle, found, failed]

/-- Work that is done on a handle replaces the handle. -/
theorem onHandle_ok (found : server.handles.get? number = some handle) {answer : α}
    {changed : Handle} (worked : work handle = .ok (answer, changed)) :
    server.onHandle number work = (.ok answer, server.setHandle number changed) := by
  simp [onHandle, found, worked]

end Server

/-- A call that is neither a flush nor a look at the length is work on the handle. -/
theorem exists_call_edits {operation : FileOperation} (calm : operation ≠ .flush)
    (active : operation ≠ .length) (number : Nat) :
    ∃ (α : Type) (work : Handle → Except IoFault (α × Handle)) (convert : α → FileAnswer),
      Handle.Edits operation.edits work ∧
      ∀ server, (PayloadRequest.call operation).serve server number =
        (.called ((server.onHandle number work).1.map convert),
          (server.onHandle number work).2) := by
  cases operation <;> simp only [PayloadRequest.serve, FileOperation.perform, Work.perform_map]
  case read count => exact ⟨_, _, _, Handle.edits_read count, fun _ => rfl⟩
  case write data => exact ⟨_, _, _, Handle.edits_write data, fun _ => rfl⟩
  case seek destination => exact ⟨_, _, _, Handle.edits_seek destination, fun _ => rfl⟩
  case setLength size => exact ⟨_, _, _, Handle.edits_setLength size, fun _ => rfl⟩
  case flush => exact absurd rfl calm
  case position => exact ⟨_, _, _, Handle.edits_seek _, fun _ => rfl⟩
  case length => exact absurd rfl active

/-- A call on a handle, if it is not a flush, fails and changes nothing, or answers and changes the
copy of the handle. -/
theorem call_cases {server : Server} {number : Nat} {handle : Handle}
    (found : server.handles.get? number = some handle) {operation : FileOperation}
    (calm : operation ≠ .flush) :
    (∃ fault, (PayloadRequest.call operation).serve server number =
      (.called (.error fault), server)) ∨
    ∃ answer after file, (PayloadRequest.call operation).serve server number =
        (.called (.ok answer), after) ∧
      after.handles.get? number =
        some { handle with file := file, dirty := operation.edits || handle.dirty } ∧
      after.handles.next = server.handles.next ∧
      (operation.edits = true → handle.access.canWrite = true) := by
  by_cases told : operation = .length
  · subst told
    refine .inr ⟨.number (server.payloadLength number), server, handle.file, rfl, ?_, rfl, nofun⟩
    simp [found, FileOperation.edits]
  · obtain ⟨_, work, convert, edits, served⟩ := exists_call_edits calm told number
    rcases edits.outcome handle with ⟨fault, failed⟩ | ⟨answer, file, worked, writable⟩
    · rw [served, Server.onHandle_error found failed]
      exact .inl ⟨fault, rfl⟩
    · rw [served, Server.onHandle_ok found worked]
      exact .inr ⟨convert answer, _, file, rfl, Server.get?_setHandle found _, rfl, writable⟩

/-- What serving a flush comes to. -/
theorem serve_flush (server : Server) (number : Nat) :
    (PayloadRequest.call .flush).serve server number =
      (.called ((server.flushPayload number).1.map fun _ => .done),
        (server.flushPayload number).2) := by
  simp only [PayloadRequest.serve, FileOperation.perform, Work.perform_map]
  rfl

/-- Every call but a look at the length fails on a handle that is closed. -/
theorem call_closed {server : Server} {number : Nat}
    (shut : ∀ handle, server.handles.get? number = some handle → handle.isOpen = false)
    {operation : FileOperation} (active : operation ≠ .length) :
    (PayloadRequest.call operation).serve server number =
      (.called (.error .handleClosed), server) := by
  by_cases flushes : operation = .flush
  · subst flushes
    have refused : server.flushPayload number = (.error .handleClosed, server) := by
      rw [Server.flushPayload]
      cases found : server.handles.get? number with
      | none => rfl
      | some handle => simp [shut handle found]
    rw [serve_flush, refused]
    rfl
  · obtain ⟨_, work, convert, edits, served⟩ := exists_call_edits flushes active number
    cases found : server.handles.get? number with
    | none =>
      rw [served, Server.onHandle, found]
      rfl
    | some handle =>
      rw [served, Server.onHandle_error found (edits.closed handle (shut handle found))]
      rfl

/-- Closing a handle that is closed does nothing. -/
theorem close_closed {server : Server} {number : Nat}
    (shut : ∀ handle, server.handles.get? number = some handle → handle.isOpen = false) :
    PayloadRequest.close.serve server number = (.closed (.ok ()), server) := by
  have closed : server.closePayload number = (.ok (), server) := by
    rw [Server.closePayload]
    cases found : server.handles.get? number with
    | none => rfl
    | some handle => simp [shut handle found]
  rw [PayloadRequest.serve, closed]

/-! ## Writing back -/

/-- The cell of a handle is there as long as the transaction goes on. -/
theorem HandlePlace.CellIn.goesOn {place : HandlePlace} {before after : Transaction} {table : Table}
    (cellIn : place.CellIn before table) (goesOn : before.GoesOn after) :
    ∃ later, place.CellIn after later := by
  obtain ⟨later, seen, lasts⟩ := goesOn.tables _ _ cellIn.seen
  exact ⟨later, seen, lasts.payloadIndex?.trans cellIn.column, lasts.rows _ cellIn.row⟩

namespace WritesCell

variable {place : HandlePlace} {handle : Handle} {number : Nat} {before middle after : Server}
variable {transaction : Transaction} {table written : Table}

/-- The handle may have changed before, if its content is the same. -/
theorem of_earlier (writes : WritesCell place number middle after handle transaction table written)
    (earlier : ChangesHandleOnly number before middle) {old : Handle}
    (found : before.handles.get? number = some old) (content : handle.file = old.file) :
    WritesCell place number before after old transaction table written where
  found := found
  held := by
    rw [← writes.held, ← earlier.frame]
    rfl
  same := writes.same
  cellIn := writes.cellIn
  cell := content ▸ writes.cell
  frame := by
    have both : { after with handles := before.handles } =
        { (middle.setConnection place.connection (.inTransaction
          (transaction.writeTable place.address.table written))) with
            handles := before.handles } := by
      rw [← writes.frame]
    rw [both, ← earlier.frame]
    rfl
  others := fun other different =>
    (writes.others other different).trans (earlier.others other different)

/-- The handle may change afterwards. -/
theorem of_later (writes : WritesCell place number before middle handle transaction table written)
    (later : ChangesHandleOnly number middle after) :
    WritesCell place number before after handle transaction table written where
  found := writes.found
  held := writes.held
  same := writes.same
  cellIn := writes.cellIn
  cell := writes.cell
  frame := by
    rw [← writes.frame, ← later.frame]
  others := fun other different =>
    (later.others other different).trans (writes.others other different)

end WritesCell

/-- How writing a handle back ends. -/
inductive WriteBackEnds (number : Nat) (handle : Handle) (server : Server) :
    Except IoFault Unit → Server → Prop where
  | clean (clean : handle.dirty = false) : WriteBackEnds number handle server (.ok ()) server
  | ended (dirty : handle.dirty = true) (ended : ¬ handle.place.InProgress server) :
      WriteBackEnds number handle server (.error .transactionOver) server
  | wrote (dirty : handle.dirty = true) {after : Server} {transaction : Transaction}
      {table written : Table}
      (writes : WritesCell handle.place number server after handle transaction table written)
      (left : after.handles.get? number = some { handle with dirty := false })
      (next : after.handles.next = server.handles.next) :
      WriteBackEnds number handle server (.ok ()) after

/-- Whenever the transaction of a handle is in progress, the cell of the handle is there. -/
def HandlePlace.CellThere (place : HandlePlace) (server : Server) : Prop :=
  ∀ transaction, server.connection place.connection = .inTransaction transaction →
    transaction.number = place.transaction → ∃ table, place.CellIn transaction table ∧ table.Sound

namespace Server

variable {server : Server} {number : Nat} {handle : Handle}

/-- Writing back writes the cell of the handle whenever the handle is dirty and its transaction is
in progress. -/
theorem writeBack_ends (found : server.handles.get? number = some handle)
    (there : handle.place.CellThere server) :
    WriteBackEnds number handle server (server.writeBack number handle).1
      (server.writeBack number handle).2 := by
  unfold writeBack
  split
  · rename_i clean
    exact .clean (by simpa using clean)
  rename_i dirty
  replace dirty : handle.dirty = true := by simpa using dirty
  split
  · rename_i inactive
    refine .ended dirty ?_
    rintro ⟨transaction, held, same⟩
    replace held : server.connection handle.connection = .inTransaction transaction := held
    replace same : transaction.number = handle.transaction := same
    simp [transactionOf?, held, same] at inactive
  rename_i transaction active
  obtain ⟨held, same⟩ := connection_of_transactionOf? active
  obtain ⟨table, cellIn, sound⟩ := there transaction held same
  obtain ⟨row, rowFound⟩ := Table.exists_row? cellIn.row
  have numbered : row.id = handle.address.row := Table.id_of_row? rowFound
  have inside : handle.address.column < row.values.length := by
    have placed : handle.address.column < table.columns.length :=
      (List.findIdx?_eq_some_iff_findIdx_eq.1 cellIn.column).1
    rwa [sound.full row (List.mem_of_find?_eq_some rowFound)]
  have written : transaction.writeCell? handle.address (.bytes handle.file.content) =
      some (transaction.writeTable handle.address.table (table.setCell handle.address.row
        handle.address.column (.bytes handle.file.content))) := by
    have seen : transaction.table? handle.address.table = some table := cellIn.seen
    have rowSeen : table.row? handle.address.row = some row := rowFound
    simp only [Transaction.writeCell?, seen, rowSeen, numbered, Option.bind_eq_bind,
      Option.bind_some]
    rfl
  rw [written]
  exact .wrote dirty ⟨found, held, same, cellIn, sound.cellChanged_setCell rowFound inside _, rfl,
    (ChangesHandleOnly.setHandle _ number _).others⟩ (get?_setHandle found _) rfl

end Server

/-! ## The states of a handle -/

namespace HandleState

/-- A closed handle stays closed. -/
theorem after_closed (event : PayloadRequest × OwnAnswer) : closed.after event = .closed := by
  obtain ⟨request, answer⟩ := event
  cases request <;> rfl

/-- A call that fails leaves a handle in its state. -/
theorem after_failed (state : HandleState) (operation : FileOperation) (fault : IoFault) :
    state.after (.call operation, .called (.error fault)) = state := by
  cases state <;> cases operation <;> rfl

/-- A call that is answered leaves a handle unsaved if it edits the handle, and in its state
otherwise, unless it is a flush. -/
theorem after_called {state : HandleState} (running : state ≠ .closed) {operation : FileOperation}
    (calm : operation ≠ .flush) (answer : FileAnswer) :
    state.after (.call operation, .called (.ok answer)) =
      if operation.edits then .unsaved else state := by
  cases state with
  | closed => exact absurd rfl running
  | clean | unsaved =>
    cases operation with
    | flush => exact absurd rfl calm
    | _ => rfl

/-- A flush that is answered leaves a handle clean. -/
theorem after_flushed {state : HandleState} (running : state ≠ .closed) (answer : FileAnswer) :
    state.after (.call .flush, .called (.ok answer)) = .clean := by
  cases state with
  | closed => exact absurd rfl running
  | clean | unsaved => rfl

end HandleState

/-- A handle is in a state. -/
structure Tracks (place : HandlePlace) (access : Access) (number : Nat) (server : Server)
    (state : HandleState) : Prop where
  given : number < server.handles.next
  shut : state = .closed → ∀ handle, server.handles.get? number = some handle →
    handle.isOpen = false
  running : state ≠ .closed → ∃ handle, server.handles.get? number = some handle ∧
    handle.place = place ∧ handle.access = access ∧ handle.isOpen = true ∧
    handle.dirty = decide (state = .unsaved)
  writable : state = .unsaved → access.canWrite = true

namespace Tracks

variable {place : HandlePlace} {access : Access} {number : Nat} {server after : Server}
variable {state : HandleState}

/-- A handle that is closed is in the state for it. -/
theorem of_closed (given : number < server.handles.next)
    (shut : ∀ handle, server.handles.get? number = some handle → handle.isOpen = false) :
    Tracks place access number server .closed :=
  ⟨given, fun _ => shut, fun running => absurd rfl running, nofun⟩

/-- Whether a handle is in a state depends on the handle alone. -/
theorem of_handle (tracks : Tracks place access number server state)
    (given : number < after.handles.next)
    (same : after.handles.get? number = server.handles.get? number) :
    Tracks place access number after state where
  given := given
  shut := same ▸ tracks.shut
  running := same ▸ tracks.running
  writable := tracks.writable

/-- A call that is not a flush moves a handle to the state for it. -/
theorem call (tracks : Tracks place access number server state) {operation : FileOperation}
    (calm : operation ≠ .flush) :
    Tracks place access number ((PayloadRequest.call operation).serve server number).2
      (state.after (.call operation, ((PayloadRequest.call operation).serve server number).1)) := by
  by_cases running : state = .closed
  · subst running
    rw [HandleState.after_closed]
    by_cases told : operation = .length
    · subst told
      exact tracks
    · rw [call_closed (tracks.shut rfl) told]
      exact tracks
  obtain ⟨handle, found, placed, accessed, isOpen, dirty⟩ := tracks.running running
  rcases call_cases found calm with
    ⟨fault, served⟩ | ⟨answer, after, file, served, left, next, writable⟩
  · rw [served, HandleState.after_failed]
    exact tracks
  rw [served, HandleState.after_called running calm]
  have given : number < after.handles.next := next ▸ tracks.given
  cases edits : operation.edits with
  | false =>
    rw [edits, Bool.false_or] at left
    refine ⟨given, fun same => absurd same running, fun _ => ?_, tracks.writable⟩
    exact ⟨_, left, placed, accessed, isOpen, dirty⟩
  | true =>
    rw [edits, Bool.true_or] at left
    refine ⟨given, nofun, fun _ => ⟨_, left, placed, accessed, isOpen, rfl⟩, fun _ => ?_⟩
    exact accessed ▸ writable edits

/-- A handle that is not closed is open, and dirty exactly if it has unsaved changes. -/
theorem flush_ends (tracks : Tracks place access number server state) (running : state ≠ .closed)
    (there : place.CellThere server) : ∃ handle, server.handles.get? number = some handle ∧
      handle.place = place ∧ handle.access = access ∧ handle.isOpen = true ∧
      handle.dirty = decide (state = .unsaved) ∧
      WriteBackEnds number handle server (server.flushPayload number).1
        (server.flushPayload number).2 := by
  obtain ⟨handle, found, placed, accessed, isOpen, dirty⟩ := tracks.running running
  have flushed : server.flushPayload number = server.writeBack number handle := by
    simp [Server.flushPayload, found, isOpen]
  rw [flushed]
  exact ⟨handle, found, placed, accessed, isOpen, dirty,
    Server.writeBack_ends found (placed ▸ there)⟩

/-- Closing a handle that is not closed yet closes it and writes it back. -/
theorem close_ends (tracks : Tracks place access number server state) (running : state ≠ .closed)
    (there : place.CellThere server) : ∃ handle, server.handles.get? number = some handle ∧
      handle.place = place ∧ handle.dirty = decide (state = .unsaved) ∧
      (server.setHandle number { handle with isOpen := false }).handles.get? number =
        some { handle with isOpen := false } ∧
      WriteBackEnds number { handle with isOpen := false }
        (server.setHandle number { handle with isOpen := false }) (server.closePayload number).1
        (server.closePayload number).2 := by
  obtain ⟨handle, found, placed, -, isOpen, dirty⟩ := tracks.running running
  have closed : server.closePayload number =
      (server.setHandle number { handle with isOpen := false }).writeBack number
        { handle with isOpen := false } := by
    simp [Server.closePayload, found, isOpen]
  have left : (server.setHandle number { handle with isOpen := false }).handles.get? number =
      some { handle with isOpen := false } := Server.get?_setHandle found _
  rw [closed]
  subst placed
  exact ⟨handle, found, rfl, dirty, left, Server.writeBack_ends left there⟩

/-- A flush moves a handle to the state for it. -/
theorem flush (tracks : Tracks place access number server state)
    (there : place.CellThere server) :
    Tracks place access number ((PayloadRequest.call .flush).serve server number).2
      (state.after (.call .flush, ((PayloadRequest.call .flush).serve server number).1)) := by
  by_cases running : state = .closed
  · subst running
    have active : FileOperation.flush ≠ .length := nofun
    rw [HandleState.after_closed, call_closed (tracks.shut rfl) active]
    exact tracks
  obtain ⟨handle, found, placed, accessed, isOpen, dirty, ends⟩ := tracks.flush_ends running there
  rw [serve_flush]
  generalize server.flushPayload number = result at ends
  obtain ⟨answer, after⟩ := result
  cases ends with
  | clean clean =>
    show Tracks place access number _ (state.after (_, .called (.ok .done)))
    rw [HandleState.after_flushed running]
    exact ⟨tracks.given, nofun, fun _ => ⟨handle, found, placed, accessed, isOpen, clean⟩, nofun⟩
  | ended _ _ =>
    show Tracks place access number _ (state.after (_, .called (.error .transactionOver)))
    rw [HandleState.after_failed]
    exact tracks
  | wrote _ _ left next =>
    show Tracks place access number _ (state.after (_, .called (.ok .done)))
    rw [HandleState.after_flushed running]
    exact ⟨next ▸ tracks.given, nofun, fun _ => ⟨_, left, placed, accessed, isOpen, rfl⟩, nofun⟩

/-- Closing leaves a handle closed, whatever it answers. -/
theorem close (tracks : Tracks place access number server state)
    (there : place.CellThere server) :
    Tracks place access number (server.closePayload number).2 .closed := by
  by_cases running : state = .closed
  · subst running
    have answered := congrArg Prod.snd (close_closed (tracks.shut rfl))
    replace answered : (server.closePayload number).2 = server := answered
    rw [answered]
    exact tracks
  obtain ⟨handle, -, -, -, left, ends⟩ := tracks.close_ends running there
  generalize server.closePayload number = result at ends
  obtain ⟨answer, after⟩ := result
  have stays {dirty : Bool} {last : Server} (next : last.handles.next = server.handles.next)
      (kept : last.handles.get? number = some { handle with isOpen := false, dirty := dirty }) :
      Tracks place access number last .closed := by
    refine .of_closed (next ▸ tracks.given) fun other found => ?_
    rw [kept] at found
    cases found
    rfl
  cases ends with
  | clean _ => exact stays rfl left
  | ended _ _ => exact stays rfl left
  | wrote _ _ kept next => exact stays next kept

/-- Every request moves a handle to the state for it. -/
theorem own (tracks : Tracks place access number server state) (there : place.CellThere server)
    (request : PayloadRequest) : Tracks place access number (request.serve server number).2
      (state.after (request, (request.serve server number).1)) := by
  cases request with
  | call operation =>
    by_cases flushes : operation = .flush
    · subst flushes
      exact tracks.flush there
    · exact tracks.call flushes
  | close =>
    have closed := tracks.close there
    cases state <;> exact closed
  | release =>
    have freed : Tracks place access number (server.releasePayload number) .closed := by
      have closed := tracks.close there
      refine .of_closed closed.given fun handle found => ?_
      replace found : ((server.closePayload number).2.handles.free number).get? number =
        some handle := found
      rw [Slots.get?_free, if_pos rfl] at found
      cases found
    cases state <;> exact freed
  | abilities => cases state <;> exact tracks

end Tracks

end Engine

end RowPayload
