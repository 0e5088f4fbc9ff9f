import RowPayload.Engine.Server

/-!
# Payloads on a server

A payload is opened within a transaction by its path locator and the transaction's
token. A handle writes its copy back when it is flushed, closed or released, only if
it is dirty, and only as long as its transaction is in progress.
-/

namespace RowPayload.Engine.Server

/-- Open the payload at a path locator and answer the number of its handle. -/
def openPayload (server : Server) (id : Nat) (path : String) (token : Bytes) (access : Access) :
    Except Failure Nat × Server :=
  match server.connection id with
  | .closed => (.error .connectionClosed, server)
  | .ready => (.error .noTransaction, server)
  | .inTransaction transaction =>
    if token ≠ transaction.token then (.error .tokenMismatch, server)
    else match transaction.payload? path with
      | none => (.error (.invalidPath path), server)
      | some (address, content) =>
        let handle : Handle :=
          ⟨id, transaction.number, address, .ofContent content, access, false, true⟩
        let (number, handles) := server.handles.add handle
        (.ok number, { server with handles := handles }.count fun counters =>
          { counters with payloadsOpened := counters.payloadsOpened + 1 })

/-- Replace a handle. -/
def setHandle (server : Server) (number : Nat) (handle : Handle) : Server :=
  { server with handles := server.handles.set number handle }

/-- Work on a handle that changes nothing else, and nothing at all if it fails. One
that was released counts as closed. -/
def onHandle {α : Type} (server : Server) (number : Nat)
    (work : Handle → Except IoFault (α × Handle)) : Except IoFault α × Server :=
  match server.handles.get? number with
  | none => (.error .handleClosed, server)
  | some handle =>
    match work handle with
    | .error fault => (.error fault, server)
    | .ok (answer, changed) => (.ok answer, server.setHandle number changed)

/-- The transaction a handle was opened in, if it is still in progress. -/
def transactionOf? (server : Server) (handle : Handle) : Option Transaction :=
  match server.connection handle.connection with
  | .inTransaction transaction =>
    if transaction.number = handle.transaction then some transaction else none
  | .closed | .ready => none

/-- Write a handle's copy back to its cell if it is dirty. -/
def writeBack (server : Server) (number : Nat) (handle : Handle) :
    Except IoFault Unit × Server :=
  if ¬ handle.dirty then (.ok (), server)
  else match server.transactionOf? handle with
    | none => (.error .transactionOver, server)
    | some transaction =>
      match transaction.writeCell? handle.address (.bytes handle.file.content) with
      | none => (.error .rowGone, server)
      | some changed =>
        (.ok (), (server.setConnection handle.connection (.inTransaction changed)).setHandle number
          { handle with dirty := false })

/-- Write a handle's changes back. -/
def flushPayload (server : Server) (number : Nat) : Except IoFault Unit × Server :=
  match server.handles.get? number with
  | none => (.error .handleClosed, server)
  | some handle =>
    if handle.isOpen then server.writeBack number handle else (.error .handleClosed, server)

/-- Close a handle, writing its changes back. It is closed even if this fails, and
closing it again does nothing. -/
def closePayload (server : Server) (number : Nat) : Except IoFault Unit × Server :=
  match server.handles.get? number with
  | none => (.ok (), server)
  | some handle =>
    if handle.isOpen then
      let closed := { handle with isOpen := false }
      (server.setHandle number closed).writeBack number closed
    else (.ok (), server)

/-- Close a handle and forget it, together with changes it cannot write back. -/
def releasePayload (server : Server) (number : Nat) : Server :=
  let closed := (server.closePayload number).2
  { closed with handles := closed.handles.free number }

/-- The length of a handle's copy, which outlives its closing. -/
def payloadLength (server : Server) (number : Nat) : Nat :=
  ((server.handles.get? number).map fun handle => handle.file.length).getD 0

/-- Whether a handle can be read. -/
def canReadPayload (server : Server) (number : Nat) : Bool :=
  (server.handles.get? number).any Handle.canRead

/-- Whether a handle can be written. -/
def canWritePayload (server : Server) (number : Nat) : Bool :=
  (server.handles.get? number).any Handle.canWrite

end RowPayload.Engine.Server
