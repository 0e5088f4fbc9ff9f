import RowPayload.ByteFile
import RowPayload.Command.Basic
import RowPayload.ResultSet
import RowPayload.Work

/-!
# Backends

A backend is what a session talks to: something that opens numbered connections,
runs commands on them within transactions and opens payloads by path locator and
transaction token. Payload handles are numbered as well. All its state is a value of
type `σ`.

Connections and handles are released when they are no longer held, whatever state
they are in.
-/

namespace RowPayload

/-- The state of a connection as a backend reports it. -/
inductive ConnectionState where
  | ready
  | inTransaction
  | closed
deriving DecidableEq

/-- The name of a connection's state. -/
def ConnectionState.name : ConnectionState → String
  | .ready => "open"
  | .inTransaction => "in_transaction"
  | .closed => "closed"

/-- The operations of a backend with states of type `σ`. -/
class Backend (σ : Type) where
  /-- Open a connection. -/
  connect : (settings : String) → Work Error σ Nat
  /-- The state of a connection. -/
  connectionState : σ → (connection : Nat) → ConnectionState
  /-- Begin a transaction. -/
  beginTransaction : (connection : Nat) → Work Error σ Unit
  /-- Commit the transaction. -/
  commit : (connection : Nat) → Work Error σ Unit
  /-- Roll the transaction back. -/
  rollback : (connection : Nat) → Work Error σ Unit
  /-- Close a connection. -/
  close : (connection : Nat) → Work Error σ Unit
  /-- Forget a connection. -/
  release : σ → (connection : Nat) → σ
  /-- Execute a statement and answer the number of rows affected. -/
  execute : (connection : Nat) → Command → Work Error σ Nat
  /-- Run a query. -/
  query : (connection : Nat) → Command → Work Error σ ResultSet
  /-- Open a payload by its path locator and the transaction's token. -/
  openPayload : (connection : Nat) → (path : String) → (token : Bytes) → Access →
    Work Error σ Nat
  /-- Read at most a number of bytes. -/
  read : (payload : Nat) → (count : Nat) → Work IoFault σ Bytes
  /-- Write bytes and answer how many were written. -/
  write : (payload : Nat) → Bytes → Work IoFault σ Nat
  /-- Bring what was written to the database. -/
  flush : (payload : Nat) → Work IoFault σ Unit
  /-- Move the position and answer the new one. -/
  seek : (payload : Nat) → SeekTarget → Work IoFault σ Nat
  /-- Cut a payload off, or fill it up with zeros. -/
  setLength : (payload : Nat) → (length : Nat) → Work IoFault σ Unit
  /-- Flush and close a payload. -/
  closePayload : (payload : Nat) → Work IoFault σ Unit
  /-- Forget a payload's handle. -/
  releasePayload : σ → (payload : Nat) → σ
  /-- The length of a payload. -/
  payloadLength : σ → (payload : Nat) → Nat
  /-- Whether a payload can be read. -/
  canRead : σ → (payload : Nat) → Bool
  /-- Whether a payload can be written. -/
  canWrite : σ → (payload : Nat) → Bool

namespace Backend

variable {σ : Type} [Backend σ]

/-- Read all bytes from the position on. -/
def readAll (payload : Nat) : Work IoFault σ Bytes := do
  read payload (payloadLength (← get) payload)

/-- The position in a payload, which a seek that moves nowhere answers. -/
def position (payload : Nat) : Work IoFault σ Nat := seek payload (.fromCurrent 0)

end Backend

end RowPayload
