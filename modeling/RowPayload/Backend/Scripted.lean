import RowPayload.Backend.Basic
import RowPayload.Slots

/-!
# Scripted backends

A scripted backend stands in for a database when a session is tested. It answers as
its script says: chosen operations always fail, a statement affects one row, a query
returns a fixed result, and every payload opened is a fresh copy of fixed content.
It records every operation but reading, before the operation can fail.
-/

namespace RowPayload

/-- The operations of a backend that can be made to fail. -/
inductive Operation where
  | connect
  | beginTransaction
  | commit
  | rollback
  | close
  | execute
  | query
  | openPayload
  | read
  | write
  | flush
  | seek
  | setLength
  | closePayload
deriving DecidableEq

namespace Operation

/-- The operations in the order of their declaration. -/
def all : List Operation :=
  [.connect, .beginTransaction, .commit, .rollback, .close, .execute, .query, .openPayload,
    .read, .write, .flush, .seek, .setLength, .closePayload]

/-- The name of an operation. -/
def name : Operation → String
  | .connect => "connect"
  | .beginTransaction => "begin"
  | .commit => "commit"
  | .rollback => "rollback"
  | .close => "close"
  | .execute => "execute"
  | .query => "query"
  | .openPayload => "open_blob"
  | .read => "read"
  | .write => "write"
  | .flush => "flush"
  | .seek => "seek"
  | .setLength => "set_len"
  | .closePayload => "blob_close"

end Operation

/-- A recorded call with what it was asked to do. -/
inductive Call where
  | connect (settings : String)
  | beginTransaction
  | commit
  | rollback
  | close
  | execute (command : Command)
  | query (command : Command)
  | openPayload (path : String) (token : Bytes) (access : Access)
  | write (data : Bytes)
  | flush
  | seek (destination : SeekTarget)
  | setLength (length : Nat)
  | closePayload
deriving DecidableEq

/-- What a scripted backend answers. -/
structure Script where
  failing : List Operation
  payload : Bytes
  result : ResultSet

/-- A backend that follows a script and records its calls, the last one first. -/
structure Scripted where
  script : Script
  calls : List Call
  connections : Slots ConnectionState
  payloads : Slots (ByteFile × Access)

namespace Scripted

/-- A backend that was not called yet. -/
def ofScript (script : Script) : Scripted := ⟨script, [], .empty, .empty⟩

/-- The calls in order, and the backend with none recorded. -/
def takeCalls (backend : Scripted) : List Call × Scripted :=
  (backend.calls.reverse, { backend with calls := [] })

/-- Record a call. -/
def record {φ : Type} (call : Call) : Work φ Scripted Unit :=
  modify fun backend => { backend with calls := call :: backend.calls }

/-- Fail if the script says so for an operation of a connection. -/
def followConnection (operation : Operation) : Work Error Scripted Unit := do
  if (← get).script.failing.contains operation then
    throw (.store (.reported (operation.name ++ " failed") ("fake " ++ operation.name)))

/-- Fail if the script says so for an operation on a payload. -/
def followPayload (operation : Operation) : Work IoFault Scripted Unit := do
  if (← get).script.failing.contains operation then
    throw (.stated ("fake " ++ operation.name))

/-- Put a connection into a state. -/
def setState (connection : Nat) (state : ConnectionState) : Work Error Scripted Unit :=
  modify fun backend =>
    { backend with connections := backend.connections.set connection state }

/-- The file of a payload. -/
def file (payload : Nat) : Work IoFault Scripted ByteFile := do
  return (((← get).payloads.get? payload).map Prod.fst).getD (.ofContent [])

/-- Replace the file of a payload. -/
def setFile (payload : Nat) (changed : ByteFile) : Work IoFault Scripted Unit :=
  modify fun backend =>
    match backend.payloads.get? payload with
    | none => backend
    | some (_, access) => { backend with payloads := backend.payloads.set payload (changed, access) }

/-- Open a connection. -/
def connect (settings : String) : Work Error Scripted Nat := do
  record (.connect settings)
  followConnection .connect
  let (id, connections) := (← get).connections.add .ready
  modify fun backend => { backend with connections := connections }
  return id

/-- Open a fresh copy of the payload. -/
def openPayload (path : String) (token : Bytes) (access : Access) : Work Error Scripted Nat := do
  record (.openPayload path token access)
  followConnection .openPayload
  let backend ← get
  let (payload, payloads) := backend.payloads.add (.ofContent backend.script.payload, access)
  set { backend with payloads := payloads }
  return payload

/-- Read at most a number of bytes. -/
def read (payload count : Nat) : Work IoFault Scripted Bytes := do
  followPayload .read
  let (data, after) := (← file payload).read count
  setFile payload after
  return data

/-- Write bytes. -/
def write (payload : Nat) (data : Bytes) : Work IoFault Scripted Nat := do
  record (.write data)
  followPayload .write
  setFile payload ((← file payload).write data)
  return data.length

/-- Move the position. -/
def seek (payload : Nat) (destination : SeekTarget) : Work IoFault Scripted Nat := do
  record (.seek destination)
  followPayload .seek
  let moved ← Work.ofResult ((← file payload).seek destination)
  setFile payload moved
  return moved.position

/-- Cut a payload off, or fill it up with zeros. -/
def setLength (payload length : Nat) : Work IoFault Scripted Unit := do
  record (.setLength length)
  followPayload .setLength
  setFile payload ((← file payload).setLength length)

/-- Record a call of an operation of a connection and fail if the script says so. -/
def step (call : Call) (operation : Operation) : Work Error Scripted Unit := do
  record call
  followConnection operation

instance : Backend Scripted where
  connect := connect
  connectionState backend connection := (backend.connections.get? connection).getD .closed
  beginTransaction connection := do
    step .beginTransaction .beginTransaction
    setState connection .inTransaction
  commit connection := do
    step .commit .commit
    setState connection .ready
  rollback connection := do
    step .rollback .rollback
    setState connection .ready
  close connection := do
    step .close .close
    setState connection .closed
  release backend connection :=
    { backend with connections := backend.connections.free connection }
  execute _ command := do
    step (.execute command) .execute
    return 1
  query _ command := do
    step (.query command) .query
    return (← get).script.result
  openPayload _ path token access := openPayload path token access
  read := read
  write := write
  flush _ := do
    record .flush
    followPayload .flush
  seek := seek
  setLength := setLength
  closePayload _ := do
    record .closePayload
    followPayload .closePayload
  releasePayload backend payload := { backend with payloads := backend.payloads.free payload }
  payloadLength backend payload :=
    ((backend.payloads.get? payload).map fun opened => opened.1.length).getD 0
  canRead backend payload := (backend.payloads.get? payload).any fun opened => opened.2.canRead
  canWrite backend payload := (backend.payloads.get? payload).any fun opened => opened.2.canWrite

end Scripted

end RowPayload
