import RowPayload.Proofs.Engine.Reachable
import RowPayload.Proofs.Session.PlainFile

/-!
# Editing a payload

While a handle is open, its payload is in two places: in the handle's copy, and in a cell
of the tables that the transaction sees. `Edit.Underway` says how they hang together. The
copy holds a plain file; the transaction is as it was when the payload was opened except
for that one cell; and the cell is behind the copy only if the handle is dirty. Every
call keeps this and answers as the plain file does. `Edit.Open` adds that the transaction
began with the committed tables, and whatever others do keeps it that leaves the session's
connection, its handles and the committed tables alone.
-/

namespace RowPayload

open Engine

/-- A payload that is being edited: the handle on it, where the payload is, and the
transaction as it was prepared. -/
structure Edit where
  connection : Nat
  payload : Nat
  access : Access
  address : CellAddress
  prepared : Transaction
  /-- The table and the row of the payload as they were prepared. -/
  table : Table
  row : TableRow
  seen : prepared.table? address.table = some table
  found : table.row? address.row = some row
  inside : address.column < row.values.length
  sound : table.Sound

namespace Edit

variable {edit : Edit} {file : PlainFile} {server : Server}

/-- The table with the payload replaced. -/
def tableWith (edit : Edit) (content : Bytes) : Table :=
  edit.table.setCell edit.address.row edit.address.column (.bytes content)

/-- The handle when it holds a plain file. -/
def handle (edit : Edit) (file : PlainFile) (dirty isOpen : Bool) : Handle :=
  ⟨edit.connection, edit.prepared.number, edit.address, file.toByteFile, edit.access, dirty, isOpen⟩

/-- The transaction is as prepared, except that the payload's cell holds a content. -/
structure Holds (edit : Edit) (transaction : Transaction) (content : Bytes) : Prop where
  identity : transaction.identity = edit.prepared.identity
  others : ∀ name, name ≠ edit.address.table →
    transaction.table? name = edit.prepared.table? name
  table : transaction.table? edit.address.table = some (edit.tableWith content)

/-- The connection is in the transaction, whose cell holds what the handle has written
back, and that is the whole file unless the handle is dirty. -/
structure Open (edit : Edit) (file : PlainFile) (server : Server) : Prop where
  catalog : server.catalog = edit.prepared.origin
  state : ∃ transaction content dirty,
    server.connection edit.connection = .inTransaction transaction ∧
    edit.Holds transaction content ∧
    server.handles.get? edit.payload = some (edit.handle file dirty true) ∧
    (dirty = false → content = file.content)

/-- An edit is under way: the connection is in the transaction, whose cell holds what the handle
has written back, and that is the whole file unless the handle is dirty. The transaction may have
begun with other tables than those that are committed by now. -/
def Underway (edit : Edit) (file : PlainFile) (server : Server) : Prop :=
  ∃ transaction content dirty,
    server.connection edit.connection = .inTransaction transaction ∧
    edit.Holds transaction content ∧
    server.handles.get? edit.payload = some (edit.handle file dirty true) ∧
    (dirty = false → content = file.content)

/-- The edit of an open payload is under way. -/
theorem Open.underway (opened : edit.Open file server) : edit.Underway file server := opened.state

/-! ## Writing back -/

/-- Writing a content into the payload's cell succeeds and replaces what the cell held. -/
theorem Holds.writeCell {transaction : Transaction} {content : Bytes}
    (holds : edit.Holds transaction content) (replacement : Bytes) :
    ∃ changed, transaction.writeCell? edit.address (.bytes replacement) = some changed ∧
      edit.Holds changed replacement := by
  obtain ⟨row, found, id⟩ : ∃ row, (edit.tableWith content).row? edit.address.row = some row ∧
      row.id = edit.address.row := by
    rw [tableWith, Table.row?_setCell, edit.found]
    refine ⟨_, rfl, ?_⟩
    have id := Table.id_of_row? edit.found
    dsimp only
    split <;> exact id
  have replaced : (edit.tableWith content).setCell row.id edit.address.column
      (.bytes replacement) = edit.tableWith replacement := by
    rw [id, tableWith, Table.setCell_setCell]
    rfl
  refine ⟨transaction.writeTable edit.address.table (edit.tableWith replacement), ?_, ?_⟩
  · simp [Transaction.writeCell?, holds.table, found, replaced]
  · constructor
    case identity => exact holds.identity
    case others =>
      intro name other
      rw [Transaction.table?_writeTable, if_neg other]
      exact holds.others name other
    case table => rw [Transaction.table?_writeTable, if_pos rfl]

/-- Writing the handle back succeeds, and the cell then holds the file. -/
theorem perform_writeBack {transaction : Transaction} {content : Bytes} {dirty isOpen : Bool}
    (held : server.connection edit.connection = .inTransaction transaction)
    (holds : edit.Holds transaction content)
    (handled : server.handles.get? edit.payload = some (edit.handle file dirty isOpen))
    (clean : dirty = false → content = file.content) :
    let written := server.writeBack edit.payload (edit.handle file dirty isOpen)
    written.1 = .ok () ∧ written.2.catalog = server.catalog ∧
      written.2.handles.get? edit.payload = some (edit.handle file false isOpen) ∧
      ∃ changed, written.2.connection edit.connection = .inTransaction changed ∧
        edit.Holds changed file.content := by
  intro written
  have number : transaction.number = edit.prepared.number :=
    congrArg (fun identity => identity.1) holds.identity
  cases dirty with
  | false =>
    have same : written = (.ok (), server) := by
      simp [written, Server.writeBack, handle]
    rw [same]
    exact ⟨rfl, rfl, handled, transaction, held, clean rfl ▸ holds⟩
  | true =>
    obtain ⟨changed, writes, changedHolds⟩ := holds.writeCell file.content
    have same : written = (.ok (), (server.setConnection edit.connection
        (.inTransaction changed)).setHandle edit.payload (edit.handle file false isOpen)) := by
      have open? : server.transactionOf? (edit.handle file true isOpen) = some transaction := by
        simp [Server.transactionOf?, handle, held, number]
      have content : (edit.handle file true isOpen).file.content = file.content := rfl
      have address : (edit.handle file true isOpen).address = edit.address := rfl
      simp only [written, Server.writeBack, open?, content, address, writes]
      simp [handle]
    rw [same]
    refine ⟨rfl, rfl, ?_, changed, ?_, changedHolds⟩
    · exact Server.get?_setHandle handled _
    · have alive : server.connection edit.connection ≠ .closed := by simp [held]
      rw [Server.connection_setHandle, Server.connection_setConnection alive, if_pos rfl]

/-! ## Calls -/

/-- Work on the handle that succeeds leaves the edit under way if the handle is dirty
whenever its file differs from what the cell holds. -/
theorem Underway.onHandle {α : Type} {answer : α} (underway : edit.Underway file server)
    (work : Handle → Except IoFault (α × Handle)) (changed : PlainFile)
    (works : ∀ dirty, ∃ later,
      work (edit.handle file dirty true) = .ok (answer, edit.handle changed later true) ∧
        (later = false → dirty = false ∧ changed.content = file.content)) :
    (server.onHandle edit.payload work).1 = .ok answer ∧
      edit.Underway changed (server.onHandle edit.payload work).2 := by
  obtain ⟨transaction, content, dirty, held, holds, handled, clean⟩ := underway
  obtain ⟨later, worked, kept⟩ := works dirty
  have same : server.onHandle edit.payload work =
      (.ok answer, server.setHandle edit.payload (edit.handle changed later true)) := by
    simp [Server.onHandle, handled, worked]
  rw [same]
  refine ⟨rfl, transaction, content, later, held, holds, ?_, fun isClean => ?_⟩
  · exact Server.get?_setHandle handled _
  · obtain ⟨wasClean, unchanged⟩ := kept isClean
    rw [clean wasClean, unchanged]

/-- Work on the handle that fails changes nothing. -/
theorem Underway.onHandle_error {α : Type} {fault : IoFault} (underway : edit.Underway file server)
    (work : Handle → Except IoFault (α × Handle))
    (fails : ∀ dirty, work (edit.handle file dirty true) = .error fault) :
    server.onHandle edit.payload work = (.error fault, server) := by
  obtain ⟨transaction, content, dirty, -, -, handled, -⟩ := underway
  simp [Server.onHandle, handled, fails dirty]

/-- A seek answers as in the plain file and leaves the edit under way. -/
theorem Underway.seek (underway : edit.Underway file server) (destination : SeekTarget) :
    (server.onHandle edit.payload fun handle => handle.seek destination).1.map FileAnswer.number =
        (file.seek destination).1 ∧
      edit.Underway (file.seek destination).2
        (server.onHandle edit.payload fun handle => handle.seek destination).2 := by
  have seeks (dirty : Bool) : (edit.handle file dirty true).seek destination =
      (file.toByteFile.seek destination).map fun sought =>
        (sought.position, { edit.handle file dirty true with file := sought }) := by
    simp only [Handle.seek, Handle.requireOpen, handle, if_true]
    cases file.toByteFile.seek destination <;> rfl
  simp only [PlainFile.seek_toByteFile] at seeks
  unfold PlainFile.seek
  dsimp only
  by_cases fits : 0 ≤ file.target destination ∧
      file.target destination < ByteFile.positionBound
  · simp only [if_pos fits] at seeks ⊢
    obtain ⟨answer, after⟩ := underway.onHandle (fun handle => handle.seek destination)
      { file with position := (file.target destination).toNat } fun dirty =>
        ⟨dirty, seeks dirty, fun isClean => ⟨isClean, rfl⟩⟩
    rw [answer]
    exact ⟨rfl, after⟩
  · simp only [if_neg fits] at seeks ⊢
    rw [underway.onHandle_error (fun handle => handle.seek destination) seeks]
    exact ⟨rfl, underway⟩

/-- Flushing leaves the edit under way, with the file as it is. -/
theorem Underway.flush (underway : edit.Underway file server) :
    (server.flushPayload edit.payload).1 = .ok () ∧
      edit.Underway file (server.flushPayload edit.payload).2 := by
  obtain ⟨transaction, content, dirty, held, holds, handled, clean⟩ := underway
  have same : server.flushPayload edit.payload =
      server.writeBack edit.payload (edit.handle file dirty true) := by
    simp [Server.flushPayload, handled, handle]
  obtain ⟨answer, -, kept, changed, changedHeld, changedHolds⟩ :=
    perform_writeBack held holds handled clean
  rw [same]
  exact ⟨answer, changed, file.content, false, changedHeld,
    changedHolds, kept, fun _ => rfl⟩

/-- A read answers as in the plain file and leaves the edit under way. -/
theorem Underway.read (underway : edit.Underway file server) (count : Nat) :
    (server.onHandle edit.payload fun handle => handle.read count).1.map FileAnswer.bytes =
        (file.call edit.access (.read count)).1 ∧
      edit.Underway (file.call edit.access (.read count)).2
        (server.onHandle edit.payload fun handle => handle.read count).2 := by
  simp only [PlainFile.call]
  by_cases readable : edit.access.canRead = true
  · have reads (dirty : Bool) : (edit.handle file dirty true).read count =
        .ok (file.taken count, edit.handle
          { file with position := file.position + file.available count } dirty true) := by
      simp only [Handle.read, Handle.requireReadable, handle, readable, not_true_eq_false,
        if_false, if_true, PlainFile.read_toByteFile]
      rfl
    obtain ⟨answer, after⟩ := underway.onHandle (fun handle => handle.read count)
      { file with position := file.position + file.available count } fun dirty =>
        ⟨dirty, reads dirty, fun isClean => ⟨isClean, rfl⟩⟩
    rw [answer, if_pos readable]
    exact ⟨rfl, after⟩
  · have refuses (dirty : Bool) : (edit.handle file dirty true).read count =
        .error .notReadable := by
      simp [Handle.read, Handle.requireReadable, handle, readable, bind, Except.bind]
    rw [underway.onHandle_error (fun handle => handle.read count) refuses, if_neg readable]
    exact ⟨rfl, underway⟩

/-- A write answers as in the plain file and leaves the edit under way. -/
theorem Underway.write (underway : edit.Underway file server) (data : Bytes) :
    (server.onHandle edit.payload fun handle => handle.write data).1.map FileAnswer.number =
        (file.call edit.access (.write data)).1 ∧
      edit.Underway (file.call edit.access (.write data)).2
        (server.onHandle edit.payload fun handle => handle.write data).2 := by
  simp only [PlainFile.call]
  by_cases writable : edit.access.canWrite = true
  · have writes (dirty : Bool) : (edit.handle file dirty true).write data =
        .ok (data.length, edit.handle (file.write data) true true) := by
      simp only [Handle.write, Handle.requireWritable, handle, writable, not_true_eq_false,
        if_false, if_true, PlainFile.write_toByteFile]
      rfl
    obtain ⟨answer, after⟩ := underway.onHandle (fun handle => handle.write data)
      (file.write data) fun dirty => ⟨true, writes dirty, by simp⟩
    rw [answer, if_pos writable]
    exact ⟨rfl, after⟩
  · have refuses (dirty : Bool) : (edit.handle file dirty true).write data =
        .error .notWritable := by
      simp [Handle.write, Handle.requireWritable, handle, writable, bind, Except.bind]
    rw [underway.onHandle_error (fun handle => handle.write data) refuses, if_neg writable]
    exact ⟨rfl, underway⟩

/-- Setting the length answers as in the plain file and leaves the edit under way. -/
theorem Underway.setLength (underway : edit.Underway file server) (size : Nat) :
    (server.onHandle edit.payload fun handle => handle.setLength size).1.map
          (fun _ => FileAnswer.done) = (file.call edit.access (.setLength size)).1 ∧
      edit.Underway (file.call edit.access (.setLength size)).2
        (server.onHandle edit.payload fun handle => handle.setLength size).2 := by
  simp only [PlainFile.call]
  by_cases writable : edit.access.canWrite = true
  · have sets (dirty : Bool) : (edit.handle file dirty true).setLength size =
        .ok ((), edit.handle (file.setLength size) true true) := by
      simp only [Handle.setLength, Handle.requireWritable, handle, writable, not_true_eq_false,
        if_false, if_true, PlainFile.setLength_toByteFile]
      rfl
    obtain ⟨answer, after⟩ := underway.onHandle (fun handle => handle.setLength size)
      (file.setLength size) fun dirty => ⟨true, sets dirty, by simp⟩
    rw [answer, if_pos writable]
    exact ⟨rfl, after⟩
  · have refuses (dirty : Bool) : (edit.handle file dirty true).setLength size =
        .error .notWritable := by
      simp [Handle.setLength, Handle.requireWritable, handle, writable, bind, Except.bind]
    rw [underway.onHandle_error (fun handle => handle.setLength size) refuses, if_neg writable]
    exact ⟨rfl, underway⟩

/-- A call answers as in the plain file and leaves the edit under way. -/
theorem Underway.call (underway : edit.Underway file server) (operation : FileOperation) :
    ((operation.perform edit.payload).perform server).1 =
        (file.call edit.access operation).1 ∧
      edit.Underway (file.call edit.access operation).2
        ((operation.perform edit.payload).perform server).2 := by
  cases operation <;> simp only [FileOperation.perform, Work.perform_map]
  case read count => exact underway.read count
  case write data => exact underway.write data
  case seek destination => exact underway.seek destination
  case setLength size => exact underway.setLength size
  case flush =>
    obtain ⟨answer, after⟩ := underway.flush
    exact ⟨congrArg (Except.map fun _ => FileAnswer.done) answer, after⟩
  case position => exact underway.seek (.fromCurrent 0)
  case length =>
    have length : server.payloadLength edit.payload = file.length := by
      obtain ⟨transaction, content, dirty, -, -, handled, -⟩ := underway
      simp only [Server.payloadLength, handled, Option.map_some, Option.getD_some]
      exact file.length_content
    show Except.ok (FileAnswer.number (server.payloadLength edit.payload)) = _ ∧ _
    rw [length]
    exact ⟨rfl, underway⟩

/-- **Every call answers as in the plain file** and leaves the payload open with the file
the call leaves. -/
theorem Open.call (opened : edit.Open file server) (operation : FileOperation) :
    ((operation.perform edit.payload).perform server).1 =
        (file.call edit.access operation).1 ∧
      edit.Open (file.call edit.access operation).2
        ((operation.perform edit.payload).perform server).2 := by
  obtain ⟨answer, after⟩ := opened.underway.call operation
  have inside := Server.inside_fileOperation edit.connection edit.payload operation server
  exact ⟨answer, inside.catalog.trans opened.catalog, after⟩

end Edit

/-! ## Runs -/

/-- What others may do on a server while a session is open on a connection: anything that
leaves the connection, the handles opened on it and the committed tables alone. -/
structure Engine.Server.Aside (id : Nat) (before after : Server) : Prop where
  connection : after.connection id = before.connection id
  handles : ∀ number handle, before.handles.get? number = some handle →
    handle.connection = id → after.handles.get? number = some handle
  catalog : after.catalog = before.catalog

/-- A run of calls on a payload with what they answered, others acting aside. -/
inductive PayloadRun (id payload : Nat) :
    Server → List (FileOperation × Except IoFault FileAnswer) → Server → Prop where
  | rest (server : Server) : PayloadRun id payload server [] server
  | aside {before middle after : Server}
      {history : List (FileOperation × Except IoFault FileAnswer)} :
      before.Aside id middle → PayloadRun id payload middle history after →
      PayloadRun id payload before history after
  | call {before after : Server} {history : List (FileOperation × Except IoFault FileAnswer)}
      (operation : FileOperation) :
      PayloadRun id payload ((operation.perform payload).perform before).2 history after →
      PayloadRun id payload before
        ((operation, ((operation.perform payload).perform before).1) :: history) after

/-- The answers of a plain file to calls one after another, and the file afterwards. -/
def PlainFile.run (access : Access) : PlainFile → List FileOperation →
    List (FileOperation × Except IoFault FileAnswer) × PlainFile
  | file, [] => ([], file)
  | file, operation :: rest =>
    let (history, last) := (file.call access operation).2.run access rest
    ((operation, (file.call access operation).1) :: history, last)

/-- Calls that alter nothing leave the bytes of a file as they are. -/
theorem PlainFile.content_run {operations : List FileOperation}
    (keeps : ∀ operation ∈ operations, operation.alters = false) (access : Access)
    (file : PlainFile) : (file.run access operations).2.content = file.content := by
  induction operations generalizing file with
  | nil => rfl
  | cons first rest inductionHypothesis =>
    have following := inductionHypothesis
      (fun operation member => keeps operation (by simp [member])) (file.call access first).2
    exact following.trans (file.content_call (keeps first (by simp)) access)

/-- The server after calls on a payload, one after another. -/
def FileOperation.performAll (payload : Nat) (operations : List FileOperation) (server : Server) :
    Server :=
  operations.foldl (fun server operation => ((operation.perform payload).perform server).2) server

/-- Calls one after another are a run. -/
theorem PayloadRun.ofOperations (id payload : Nat) (operations : List FileOperation)
    (server : Server) : ∃ history, PayloadRun id payload server history
      (FileOperation.performAll payload operations server) := by
  induction operations generalizing server with
  | nil => exact ⟨[], .rest server⟩
  | cons operation rest inductionHypothesis =>
    obtain ⟨history, run⟩ := inductionHypothesis ((operation.perform payload).perform server).2
    exact ⟨_, .call operation run⟩

namespace Edit

variable {edit : Edit} {file : PlainFile} {server after : Server}

/-- Calls one after another leave an edit under way, with the file that they leave. -/
theorem Underway.performAll (underway : edit.Underway file server)
    (operations : List FileOperation) : edit.Underway (file.run edit.access operations).2
      (FileOperation.performAll edit.payload operations server) := by
  induction operations generalizing file server with
  | nil => exact underway
  | cons first rest inductionHypothesis => exact inductionHypothesis (underway.call first).2

/-- What others do aside leaves the payload open. -/
theorem Open.aside (opened : edit.Open file server) (aside : server.Aside edit.connection after) :
    edit.Open file after := by
  obtain ⟨transaction, content, dirty, held, holds, handled, clean⟩ := opened.state
  refine ⟨aside.catalog.trans opened.catalog, transaction, content, dirty, ?_, holds, ?_, clean⟩
  · rw [aside.connection, held]
  · exact aside.handles _ _ handled rfl

/-- **A run answers as the plain file does** and leaves the payload open with the file the
calls leave. -/
theorem Open.run {history : List (FileOperation × Except IoFault FileAnswer)}
    (opened : edit.Open file server)
    (run : PayloadRun edit.connection edit.payload server history after) :
    history = (file.run edit.access (history.map Prod.fst)).1 ∧
      edit.Open (file.run edit.access (history.map Prod.fst)).2 after := by
  -- `Open` is kept by every step, for whichever file the steps before have led to.
  induction run generalizing file with
  | rest server => exact ⟨rfl, opened⟩
  | aside aside _ inductionHypothesis => exact inductionHypothesis (opened.aside aside)
  | call operation _ inductionHypothesis =>
    obtain ⟨answer, next⟩ := opened.call operation
    obtain ⟨answers, last⟩ := inductionHypothesis next
    refine ⟨?_, last⟩
    rw [answer]
    exact congrArg (List.cons _) answers

/-- Closing the handle of an edit that is under way succeeds, and the transaction then holds the
file. -/
theorem Underway.close (underway : edit.Underway file server) :
    let closed := server.closePayload edit.payload
    closed.1 = .ok () ∧ closed.2.catalog = server.catalog ∧
      closed.2.handles.get? edit.payload = some (edit.handle file false false) ∧
      ∃ transaction, closed.2.connection edit.connection = .inTransaction transaction ∧
        edit.Holds transaction file.content := by
  obtain ⟨transaction, content, dirty, held, holds, handled, clean⟩ := underway
  intro closed
  have closing : (server.setHandle edit.payload (edit.handle file dirty false)).handles.get?
      edit.payload = some (edit.handle file dirty false) :=
    Server.get?_setHandle handled _
  have same : closed = (server.setHandle edit.payload
      (edit.handle file dirty false)).writeBack edit.payload (edit.handle file dirty false) := by
    simp [closed, Server.closePayload, handled, handle]
  obtain ⟨answer, catalog, kept, written⟩ := perform_writeBack
    (by rwa [Server.connection_setHandle]) holds closing clean
  rw [same]
  exact ⟨answer, catalog, kept, written⟩

/-- Releasing a handle that is closed leaves connections and tables alone. -/
theorem releasePayload_closed {payload : Nat} {handle : Handle}
    (handled : server.handles.get? payload = some handle) (closed : handle.isOpen = false) :
    server.releasePayload payload = { server with handles := server.handles.free payload } := by
  simp [Server.releasePayload, Server.closePayload, handled, closed]

end Edit

end RowPayload
