import RowPayload.Proofs.Engine.Handles

/-!
# When and where handles write back

All that a handle does to its server, apart from itself, is to put its content into the cell it was
opened on, when it has unsaved changes and is flushed, closed or released while its transaction
goes on. That the cell is still there then is what lasts while a transaction goes on.
-/

namespace RowPayload

namespace Engine

/-! ## The conduct of a handle -/

/-- How a request that makes a handle write its changes back is settled. -/
inductive Settles (place : HandlePlace) (number : Nat) (server : Server) (state : HandleState) :
    Except IoFault Unit → Server → Prop where
  | quiet (saved : state ≠ .unsaved) {after : Server}
      (only : ChangesHandleOnly number server after) :
      Settles place number server state (.ok ()) after
  | ended (unsaved : state = .unsaved) (ended : ¬ place.InProgress server) {after : Server}
      (only : ChangesHandleOnly number server after) :
      Settles place number server state (.error .transactionOver) after
  | wrote (unsaved : state = .unsaved) {after : Server} {handle : Handle}
      {transaction : Transaction} {table written : Table}
      (writes : WritesCell place number server after handle transaction table written) :
      Settles place number server state (.ok ()) after

section

variable {place : HandlePlace} {access : Access} {number : Nat} {server after last : Server}
variable {state : HandleState}

/-- The handle may change after a request was settled. -/
theorem Settles.of_later {result : Except IoFault Unit}
    (settles : Settles place number server state result after)
    (later : ChangesHandleOnly number after last) :
    Settles place number server state result last := by
  cases settles with
  | quiet saved only => exact .quiet saved (only.trans later)
  | ended unsaved ended only => exact .ended unsaved ended (only.trans later)
  | wrote unsaved writes => exact .wrote unsaved (writes.of_later later)

/-- Unsaved changes cannot be saved once the transaction is over. -/
theorem Settles.refused {result : Except IoFault Unit}
    (settles : Settles place number server state result after) (unsaved : state = .unsaved)
    (ended : ¬ place.InProgress server) : result = .error .transactionOver := by
  cases settles with
  | quiet saved _ => exact absurd unsaved saved
  | ended _ _ _ => rfl
  | wrote _ writes => exact absurd ⟨_, writes.held, writes.same⟩ ended

/-- How a flush is settled. -/
theorem Tracks.flush_settles (tracks : Tracks place access number server state)
    (running : state ≠ .closed) (there : place.CellThere server) :
    Settles place number server state (server.flushPayload number).1
      (server.flushPayload number).2 := by
  obtain ⟨handle, found, rfl, -, -, dirty, ends⟩ := tracks.flush_ends running there
  generalize server.flushPayload number = result at ends ⊢
  obtain ⟨answer, after⟩ := result
  cases ends with
  | clean clean => exact .quiet (by simpa [clean] using dirty) (.refl number _)
  | ended isDirty ended => exact .ended (by simpa [isDirty] using dirty) ended (.refl number _)
  | wrote isDirty writes _ _ => exact .wrote (by simpa [isDirty] using dirty) writes

/-- How closing is settled. -/
theorem Tracks.close_settles (tracks : Tracks place access number server state)
    (running : state ≠ .closed) (there : place.CellThere server) :
    Settles place number server state (server.closePayload number).1
      (server.closePayload number).2 := by
  obtain ⟨handle, found, rfl, dirty, left, ends⟩ := tracks.close_ends running there
  have earlier := ChangesHandleOnly.setHandle server number { handle with isOpen := false }
  generalize server.closePayload number = result at ends ⊢
  obtain ⟨answer, after⟩ := result
  cases ends with
  | clean clean =>
    replace clean : handle.dirty = false := clean
    exact .quiet (by simpa [clean] using dirty) earlier
  | ended isDirty ended =>
    replace isDirty : handle.dirty = true := isDirty
    replace ended : ¬ handle.place.InProgress server := ended
    exact .ended (by simpa [isDirty] using dirty) ended earlier
  | wrote isDirty writes _ _ =>
    replace isDirty : handle.dirty = true := isDirty
    have moved : WritesCell handle.place number _ _ { handle with isOpen := false } _ _ _ := writes
    exact .wrote (by simpa [isDirty] using dirty) (moved.of_earlier earlier found rfl)

/-- How every request that makes a handle write its changes back is settled, and what it answers. -/
theorem Tracks.serve_settles (tracks : Tracks place access number server state)
    (running : state ≠ .closed) (there : place.CellThere server) {request : PayloadRequest}
    (writesBack : request.WritesBack) : ∃ result,
      Settles place number server state result (request.serve server number).2 ∧
      ((request = .call .flush ∧
          (request.serve server number).1 = .called (result.map fun _ => .done)) ∨
        (request = .close ∧ (request.serve server number).1 = .closed result) ∨
        (request = .release ∧ (request.serve server number).1 = .released)) := by
  cases request with
  | call operation =>
    cases operation with
    | flush =>
      rw [serve_flush]
      exact ⟨_, tracks.flush_settles running there, .inl ⟨rfl, rfl⟩⟩
    | _ => exact writesBack.elim
  | close => exact ⟨_, tracks.close_settles running there, .inr (.inl ⟨rfl, rfl⟩)⟩
  | release =>
    have freed := ChangesHandleOnly.free (server.closePayload number).2 number
    exact ⟨_, (tracks.close_settles running there).of_later freed, .inr (.inr ⟨rfl, rfl⟩)⟩
  | abilities => exact writesBack.elim

end

/-- An answer that reports a failure. -/
def OwnAnswer.Failed : OwnAnswer → Prop
  | .called (.error _) | .closed (.error _) => True
  | _ => False

/-- What a handle in a state does on each request. -/
structure Conduct (place : HandlePlace) (access : Access) (number : Nat) (server : Server)
    (state : HandleState) : Prop where
  /-- It changes nothing but itself, unless it writes unsaved changes back while its transaction
  goes on. -/
  aside : ∀ request : PayloadRequest,
    ¬ (request.WritesBack ∧ state = .unsaved ∧ place.InProgress server) →
      ChangesHandleOnly number server (request.serve server number).2
  /-- Then it does write its cell, and nothing else. -/
  writesBack : ∀ request : PayloadRequest, request.WritesBack → state = .unsaved →
    place.InProgress server → ¬ (request.serve server number).1.Failed ∧
      ∃ handle transaction table written, WritesCell place number server
        (request.serve server number).2 handle transaction table written
  /-- It has unsaved changes only if it was opened for writing. -/
  writable : state = .unsaved → access.canWrite = true
  /-- If it was not, it changes nothing but itself. -/
  readOnly : access.canWrite = false → ∀ request : PayloadRequest,
    ChangesHandleOnly number server (request.serve server number).2
  /-- If it was not opened for reading, reading fails. -/
  unreadable : access.canRead = false → ∀ count,
    ((PayloadRequest.call (.read count)).serve server number).1.Failed
  /-- Once its transaction is over, it cannot save its changes. -/
  ended : state = .unsaved → ¬ place.InProgress server →
    ((PayloadRequest.call .flush).serve server number).1 = .called (.error .transactionOver) ∧
      (PayloadRequest.close.serve server number).1 = .closed (.error .transactionOver)
  /-- Once it is closed, closing it does nothing and working on it fails. -/
  closed : state = .closed → PayloadRequest.close.serve server number = (.closed (.ok ()), server) ∧
    ∀ operation : FileOperation, operation ≠ .length →
      (PayloadRequest.call operation).serve server number =
        (.called (.error .handleClosed), server)

section

variable {place : HandlePlace} {access : Access} {number : Nat} {server : Server}
variable {state : HandleState}

/-- A handle changes nothing but itself, unless it writes back. -/
theorem Tracks.aside (tracks : Tracks place access number server state)
    (there : place.CellThere server) (request : PayloadRequest)
    (idle : ¬ (request.WritesBack ∧ state = .unsaved ∧ place.InProgress server)) :
    ChangesHandleOnly number server (request.serve server number).2 := by
  by_cases writesBack : request.WritesBack
  case neg =>
    cases request with
    | call operation =>
      exact .call (fun flushes => writesBack (by rw [flushes]; trivial)) server number
    | close | release => exact absurd trivial writesBack
    | abilities => exact .refl number server
  by_cases running : state = .closed
  · subst running
    have shut := tracks.shut rfl
    have closed := congrArg Prod.snd (close_closed shut)
    replace closed : (server.closePayload number).2 = server := closed
    cases request with
    | call operation =>
      have active : operation ≠ .length := by
        rintro rfl
        exact writesBack
      rw [call_closed shut active]
      exact .refl number server
    | close =>
      rw [close_closed shut]
      exact .refl number server
    | release =>
      have freed := ChangesHandleOnly.free (server.closePayload number).2 number
      rw [closed] at freed
      show ChangesHandleOnly number server { (server.closePayload number).2 with
        handles := (server.closePayload number).2.handles.free number }
      rw [closed]
      exact freed
    | abilities => exact .refl number server
  obtain ⟨result, settles, -⟩ := tracks.serve_settles running there writesBack
  generalize (request.serve server number).2 = after at settles ⊢
  cases settles with
  | quiet _ only => exact only
  | ended _ _ only => exact only
  | wrote unsaved writes =>
    exact absurd ⟨writesBack, unsaved, _, writes.held, writes.same⟩ idle

/-- **A handle conducts itself as its state tells.** -/
theorem Tracks.conduct (tracks : Tracks place access number server state)
    (there : place.CellThere server) : Conduct place access number server state where
  aside := tracks.aside there
  writesBack := by
    intro request writesBack unsaved inProgress
    have running : state ≠ .closed := by simp [unsaved]
    obtain ⟨result, settles, answered⟩ := tracks.serve_settles running there writesBack
    generalize (request.serve server number).1 = answer at answered ⊢
    generalize (request.serve server number).2 = after at settles ⊢
    cases settles with
    | quiet saved _ => exact absurd unsaved saved
    | ended _ ended _ => exact absurd inProgress ended
    | wrote _ writes =>
      refine ⟨?_, _, _, _, _, writes⟩
      rcases answered with ⟨-, rfl⟩ | ⟨-, rfl⟩ | ⟨-, rfl⟩ <;> exact id
  writable := tracks.writable
  readOnly := by
    intro readOnly request
    refine tracks.aside there request ?_
    rintro ⟨-, unsaved, -⟩
    rw [tracks.writable unsaved] at readOnly
    cases readOnly
  unreadable := by
    intro unreadable count
    by_cases running : state = .closed
    · have active : FileOperation.read count ≠ .length := nofun
      rw [call_closed (tracks.shut running) active]
      trivial
    obtain ⟨handle, found, -, rfl, isOpen, -⟩ := tracks.running running
    have failed : handle.read count = .error .notReadable := by
      simp [Handle.read, Handle.requireReadable, isOpen, unreadable, bind, Except.bind]
    have served : ((PayloadRequest.call (.read count)).serve server number).1 =
        .called ((server.onHandle number (·.read count)).1.map .bytes) := by
      simp only [PayloadRequest.serve, FileOperation.perform, Work.perform_map]
      rfl
    rw [served, Server.onHandle_error found failed]
    trivial
  ended := by
    intro unsaved ended
    have running : state ≠ .closed := by simp [unsaved]
    have flushed := (tracks.flush_settles running there).refused unsaved ended
    have closed := (tracks.close_settles running there).refused unsaved ended
    rw [serve_flush, flushed]
    exact ⟨rfl, congrArg OwnAnswer.closed closed⟩
  closed := by
    rintro rfl
    exact ⟨close_closed (tracks.shut rfl), fun _ active => call_closed (tracks.shut rfl) active⟩

end

/-! ## Runs -/

/-- What happens on a server after a handle was opened: requests to the handle with their answers,
and between them any other requests. -/
inductive HandleRun (number : Nat) (start : Server) :
    List (PayloadRequest × OwnAnswer) → Server → Prop where
  | start : HandleRun number start [] start
  | own {history : List (PayloadRequest × OwnAnswer)} {server : Server}
      (run : HandleRun number start history server) (request : PayloadRequest) :
      HandleRun number start (history ++ [(request, (request.serve server number).1)])
        (request.serve server number).2
  | other {history : List (PayloadRequest × OwnAnswer)} {server : Server}
      (run : HandleRun number start history server) (request : Request)
      (foreign : request.subject ≠ .payload number) :
      HandleRun number start history (request.serve server)

/-- A change on another subject leaves a handle as it is. -/
theorem Server.handle_of_change {before after : Server} {subject : Subject} {number : Nat}
    (foreign : subject ≠ .payload number) (given : number < before.handles.next)
    (change : Change subject before after) :
    number < after.handles.next ∧ after.handles.get? number = before.handles.get? number := by
  cases change with
  | recount _ _ handles _ => rw [handles]; exact ⟨given, rfl⟩
  | createTable | connect | begin | leave | commit | release | writeCell => exact ⟨given, rfl⟩
  | statement =>
    cases before.connection _ <;> exact ⟨given, rfl⟩
  | openPayload =>
    exact ⟨Nat.lt_succ_of_lt given, Slots.get?_add_of_lt given⟩
  | @setHandle _ other _ new =>
    have different : number ≠ other := fun same => foreign (by rw [same])
    exact ⟨given, Slots.get?_set_of_ne different⟩
  | free other =>
    have different : number ≠ other := fun same => foreign (by rw [same])
    exact ⟨given, Slots.get?_free_of_ne different⟩

/-- A request on another subject leaves a handle as it is. -/
theorem Server.handle_of_serve {server : Server} {number : Nat} {request : Request}
    (foreign : request.subject ≠ .payload number) (given : number < server.handles.next) :
    number < (request.serve server).handles.next ∧
      (request.serve server).handles.get? number = server.handles.get? number := by
  refine keeps_changes (changes_serve server request) ⟨given, rfl⟩ ?_
  rintro before later change ⟨earlierGiven, earlier⟩
  obtain ⟨laterGiven, same⟩ := handle_of_change foreign earlierGiven change
  exact ⟨laterGiven, same.trans earlier⟩

/-- What a handle is asked for can be asked of the server, or leaves it as it is. -/
theorem PayloadRequest.serve_cases (server : Server) (number : Nat) (request : PayloadRequest) :
    (request.serve server number).2 = server ∨
      ∃ asked : Request, (request.serve server number).2 = asked.serve server := by
  cases request with
  | call operation => exact .inr ⟨.call number operation, rfl⟩
  | close => exact .inr ⟨.closePayload number, rfl⟩
  | release => exact .inr ⟨.releasePayload number, rfl⟩
  | abilities => exact .inl rfl

namespace HandleRun

variable {number : Nat} {start server : Server} {history : List (PayloadRequest × OwnAnswer)}

/-- What every request keeps of a server holds along a run. -/
theorem keeps {invariant : Server → Prop} (run : HandleRun number start history server)
    (holds : invariant start)
    (kept : ∀ server request, invariant server → invariant (Request.serve server request)) :
    invariant server := by
  induction run with
  | start => exact holds
  | @own _ server _ request inductionHypothesis =>
    rcases request.serve_cases server number with same | ⟨asked, same⟩
    · rw [same]
      exact inductionHypothesis
    · rw [same]
      exact kept server asked inductionHypothesis
  | other _ request _ inductionHypothesis => exact kept _ request inductionHypothesis

/-- A run from a reachable server leads to reachable servers. -/
theorem reachable (run : HandleRun number start history server) (reached : start.Reachable) :
    server.Reachable :=
  run.keeps reached fun _ request reached => reached.serve request

/-- What a transaction sees lasts along a run. -/
theorem lasting (run : HandleRun number start history server) (reached : start.Reachable) {id : Nat}
    {transaction : Transaction} (held : start.connection id = .inTransaction transaction) :
    server.Lasting id transaction.number transaction.GoesOn :=
  run.keeps (reached.numbered.lasting held) fun _ request lasting => lasting.serve_goesOn request

/-- As long as the transaction of a handle goes on, the cell that the handle was opened on is
there. -/
theorem cellThere (run : HandleRun number start history server) (reached : start.Reachable)
    {place : HandlePlace} {transaction : Transaction} {table : Table}
    (held : start.connection place.connection = .inTransaction transaction)
    (same : transaction.number = place.transaction) (cellIn : place.CellIn transaction table) :
    place.CellThere server := by
  intro later laterHeld laterSame
  have goesOn := (run.lasting reached held).holds later laterHeld (laterSame.trans same.symm)
  obtain ⟨laterTable, laterIn⟩ := cellIn.goesOn goesOn
  have sound := (run.reachable reached).sound.transactions _ later laterHeld
  exact ⟨laterTable, laterIn, sound _ laterTable laterIn.seen⟩

/-- A transaction that is over in the course of a run stays over. -/
theorem stays_ended (run : HandleRun number start history server) {place : HandlePlace}
    (given : place.transaction < start.transactions) (ended : ¬ place.InProgress start) :
    ¬ place.InProgress server := by
  have lasting : server.Lasting place.connection place.transaction fun _ => False :=
    run.keeps ⟨given, fun transaction held same => ended ⟨transaction, held, same⟩⟩
      fun _ request lasting => lasting.serve_ended request
  rintro ⟨transaction, held, same⟩
  exact lasting.holds transaction held same

/-- Along a run a handle is in the state that its history tells. -/
theorem tracks (run : HandleRun number start history server) {place : HandlePlace} {access : Access}
    (opened : Tracks place access number start .clean)
    (there : ∀ {history server}, HandleRun number start history server → place.CellThere server) :
    Tracks place access number server (.ofHistory history) := by
  induction run with
  | start => exact opened
  | own run request inductionHypothesis =>
    rw [HandleState.ofHistory, List.foldl_append]
    exact inductionHypothesis.own (there run) request
  | other _ request foreign inductionHypothesis =>
    obtain ⟨given, same⟩ := Server.handle_of_serve foreign inductionHypothesis.given
    exact inductionHypothesis.of_handle given same

end HandleRun

/-! ## The end of a transaction -/

/-- Whether a request ends the transaction of a connection. -/
def Request.Ends (id : Nat) : Request → Prop
  | .commit other | .rollback other | .close other | .release other => other = id
  | _ => False

/-- A connection is in no transaction after a request that ends it, whatever it answers. -/
theorem Request.Ends.idle {id : Nat} {request : Request} (ends : request.Ends id) (server : Server)
    (transaction : Transaction) :
    (request.serve server).connection id ≠ .inTransaction transaction := by
  have left {state : Connection} (alive : server.connection id ≠ .closed)
      (idle : state ≠ .inTransaction transaction) :
      (server.setConnection id state).connection id ≠ .inTransaction transaction := by
    rwa [Server.connection_setConnection alive, if_pos rfl]
  cases request with
  | commit other =>
    cases ends
    show (server.commit id).2.connection id ≠ _
    unfold Server.commit
    split
    · simp_all
    · simp_all
    · rename_i held
      have ended : (server.setConnection id .ready).connection id ≠ .inTransaction transaction :=
        left (by simp [held]) nofun
      split <;> exact ended
  | rollback other =>
    cases ends
    show (server.rollback id).2.connection id ≠ _
    unfold Server.rollback
    split
    · simp_all
    · simp_all
    · rename_i held
      exact left (by simp [held]) nofun
  | close other =>
    cases ends
    show (server.close id).connection id ≠ _
    unfold Server.close
    dsimp only
    split
    · simp_all
    · rename_i held
      exact left (by simp [held]) nofun
    · rename_i held
      exact left (by simp [held]) nofun
  | release other =>
    cases ends
    show (server.release id).connection id ≠ _
    simp [Server.connection_release]
  | _ => exact ends.elim

/-- A handle's transaction is over after a request that ends the one of its connection. -/
theorem HandlePlace.ended_of_ends {place : HandlePlace} {request : Request}
    (ends : request.Ends place.connection) (server : Server) :
    ¬ place.InProgress (request.serve server) := by
  rintro ⟨transaction, held, -⟩
  exact ends.idle server transaction held

/-! ## Opened handles -/

/-- A handle was opened on a cell that its transaction sees. -/
structure OpenedOn (place : HandlePlace) (access : Access) (number : Nat) (start : Server) :
    Prop where
  reached : start.Reachable
  cell : ∃ transaction table, start.connection place.connection = .inTransaction transaction ∧
    transaction.number = place.transaction ∧ place.CellIn transaction table
  clean : Tracks place access number start .clean

/-- A payload is opened on the cell that its path leads to. -/
theorem Server.exists_openedOn {server start : Server} {id number : Nat} {path : String}
    {token : Bytes} {access : Access} (reached : server.Reachable)
    (opened : server.openPayload id path token access = (.ok number, start)) :
    ∃ transaction address content, server.connection id = .inTransaction transaction ∧
      transaction.payload? path = some (address, content) ∧
      OpenedOn ⟨id, transaction.number, address⟩ access number start := by
  obtain ⟨transaction, address, content, held, led, connections, -, given, found⟩ :=
    openPayload_ok opened
  obtain ⟨name, table, row, -, -, seen, first, rowFound, -⟩ := Transaction.payload?_eq_some led
  refine ⟨transaction, address, content, held, led, ?_, ⟨transaction, table, ?_, rfl, ?_⟩,
    given, nofun, fun _ => ⟨_, found, rfl, rfl, rfl, rfl⟩, nofun⟩
  · have asked := reached.serve (.openPayload id path token access)
    simpa only [Request.serve, opened] using asked
  · show start.connection id = _
    rw [connection, connections]
    exact held
  · exact ⟨seen, first, Table.mem_ids_of_row? rowFound⟩

namespace OpenedOn

variable {place : HandlePlace} {access : Access} {number : Nat} {start middle last : Server}
variable {history more : List (PayloadRequest × OwnAnswer)}

/-- A handle conducts itself as its history tells, whatever it and the server are asked for. -/
theorem conduct (opened : OpenedOn place access number start)
    (run : HandleRun number start history last) :
    Conduct place access number last (.ofHistory history) := by
  obtain ⟨transaction, table, held, same, cellIn⟩ := opened.cell
  have there {history : List (PayloadRequest × OwnAnswer)} {last : Server}
      (run : HandleRun number start history last) : place.CellThere last :=
    run.cellThere opened.reached held same cellIn
  exact (run.tracks opened.clean there).conduct (there run)

/-- Once the transaction of a handle is over, it stays over. -/
theorem stays_ended (opened : OpenedOn place access number start)
    (run : HandleRun number start history middle) (ended : ¬ place.InProgress middle)
    (rest : HandleRun number middle more last) : ¬ place.InProgress last := by
  obtain ⟨transaction, table, held, same, -⟩ := opened.cell
  exact rest.stays_ended (same ▸ (run.lasting opened.reached held).given) ended

end OpenedOn

/-- **Handles write back exactly when and where they should.** A handle that was opened in a
transaction conducts itself as its state tells, whatever it and the server are asked for: it
writes the cell that its path has led to, in its transaction and nothing else, exactly when it has
unsaved changes and is flushed, closed or released while the transaction goes on. Requests that
end the transaction do end it, and once it is over, it stays over. -/
theorem handle_writes_back {server start : Server} {id number : Nat} {path : String}
    {token : Bytes} {access : Access} (reached : server.Reachable)
    (opened : server.openPayload id path token access = (.ok number, start)) :
    ∃ transaction address content, server.connection id = .inTransaction transaction ∧
      transaction.payload? path = some (address, content) ∧
      (∀ history last, HandleRun number start history last →
        Conduct ⟨id, transaction.number, address⟩ access number last (.ofHistory history)) ∧
      (∀ last, ∀ request : Request, request.Ends id →
        ¬ HandlePlace.InProgress ⟨id, transaction.number, address⟩ (request.serve last)) ∧
      ∀ history middle more last, HandleRun number start history middle →
        ¬ HandlePlace.InProgress ⟨id, transaction.number, address⟩ middle →
        HandleRun number middle more last →
        ¬ HandlePlace.InProgress ⟨id, transaction.number, address⟩ last := by
  obtain ⟨transaction, address, content, held, led, openedOn⟩ :=
    Server.exists_openedOn reached opened
  exact ⟨transaction, address, content, held, led, fun _ _ run => openedOn.conduct run,
    fun last _ ends => HandlePlace.ended_of_ends ends last,
    fun _ _ _ _ run ended rest => openedOn.stays_ended run ended rest⟩

end Engine

namespace Sample

open Engine

/-- The archive with one recording, on whose connection a transaction has begun. -/
def recordedInTransaction : Server := ((connected.execute 0 (insertion 7)).2.beginTransaction 0).2

/-- The archive with one recording is reachable. -/
theorem reachable_recordedInTransaction : recordedInTransaction.Reachable :=
  .serve (.serve (.serve reachable_server (.connect settings)) (.execute 0 (insertion 7)))
    (.beginTransaction 0)

/-- The sound of the recording was opened. -/
def openedSound : Server :=
  (recordedInTransaction.openPayload 0 "\\\\memory\\Recordings\\1" (Transaction.tokenOf [1, 2, 3] 0)
    .readWrite).2

/-- Two bytes were written to the sound. -/
def writeSound (server : Server) : OwnAnswer × Server :=
  (PayloadRequest.call (.write [1, 2])).serve server 0

/-- Its handle was flushed. -/
def flushSound (server : Server) : OwnAnswer × Server :=
  (PayloadRequest.call .flush).serve server 0

end Sample

namespace Engine

/-- Two bytes that were written to a sound are put into its cell by a flush while the transaction
goes on, and cannot be saved once it was committed. -/
theorem handle_writes_back_sound :
    (∃ place handle transaction table written,
      WritesCell place 0 (Sample.writeSound Sample.openedSound).2
        (Sample.flushSound (Sample.writeSound Sample.openedSound).2).2
        handle transaction table written) ∧
      (Sample.flushSound ((Request.commit 0).serve
        (Sample.writeSound Sample.openedSound).2)).1 = .called (.error .transactionOver) := by
  have opened : Sample.recordedInTransaction.openPayload 0 "\\\\memory\\Recordings\\1"
      (Transaction.tokenOf [1, 2, 3] 0) .readWrite = (.ok 0, Sample.openedSound) :=
    Prod.ext (Checked.eq_ok_of_toOption (by decide +kernel)) rfl
  obtain ⟨transaction, address, content, held, -, conduct, ended, -⟩ :=
    handle_writes_back Sample.reachable_recordedInTransaction opened
  have wrote : HandleRun 0 Sample.openedSound _ (Sample.writeSound Sample.openedSound).2 :=
    .own .start (.call (.write [1, 2]))
  have unsaved : HandleState.ofHistory ([] ++ [(.call (.write [1, 2]),
      (Sample.writeSound Sample.openedSound).1)]) = .unsaved := by
    decide +kernel
  have inProgress : HandlePlace.InProgress ⟨0, transaction.number, address⟩
      (Sample.writeSound Sample.openedSound).2 := by
    refine ⟨transaction, ?_, rfl⟩
    obtain ⟨-, -, -, -, -, connections, -⟩ := Server.openPayload_ok opened
    have calm := ((conduct _ _ .start).aside (.call (.write [1, 2])) (·.1)).frame
    have same := congrArg Server.connections calm
    rw [Server.connection, ← held, Server.connection, ← connections, ← same]
    rfl
  have committed := wrote.other (.commit 0) (by simp [Request.subject])
  obtain ⟨-, handle, _, table, written, writes⟩ :=
    (conduct _ _ wrote).writesBack (.call .flush) trivial unsaved inProgress
  exact ⟨⟨_, handle, _, table, written, writes⟩,
    ((conduct _ _ committed).ended unsaved (ended _ _ rfl)).1⟩

end Engine

end RowPayload
