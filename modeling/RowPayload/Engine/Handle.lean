import RowPayload.ByteFile
import RowPayload.Engine.Transaction

/-!
# Payload handles

A handle is a private copy of a payload, opened within a transaction. Reading and
writing change the copy alone; a handle is dirty when it holds changes that have not
been written back to the cell it was opened on.
-/

namespace RowPayload.Engine

/-- A handle on a payload. -/
structure Handle where
  /-- The connection and the transaction it was opened in. -/
  connection : Nat
  transaction : Nat
  address : CellAddress
  file : ByteFile
  access : Access
  dirty : Bool
  isOpen : Bool

namespace Handle

/-- Whether the handle can be read. -/
def canRead (handle : Handle) : Bool := handle.isOpen && handle.access.canRead

/-- Whether the handle can be written. -/
def canWrite (handle : Handle) : Bool := handle.isOpen && handle.access.canWrite

/-- The handle must be open. -/
def requireOpen (handle : Handle) : Except IoFault Unit :=
  if handle.isOpen then .ok () else .error .handleClosed

/-- The handle must be open and its access must include reading. -/
def requireReadable (handle : Handle) : Except IoFault Unit :=
  if ¬ handle.isOpen then .error .handleClosed
  else if handle.access.canRead then .ok () else .error .notReadable

/-- The handle must be open and its access must include writing. -/
def requireWritable (handle : Handle) : Except IoFault Unit :=
  if ¬ handle.isOpen then .error .handleClosed
  else if handle.access.canWrite then .ok () else .error .notWritable

/-- Read at most a number of bytes. -/
def read (handle : Handle) (count : Nat) : Except IoFault (Bytes × Handle) := do
  handle.requireReadable
  let (data, file) := handle.file.read count
  return (data, { handle with file := file })

/-- Write bytes and answer how many were written, which is all of them. -/
def write (handle : Handle) (data : Bytes) : Except IoFault (Nat × Handle) := do
  handle.requireWritable
  return (data.length, { handle with file := handle.file.write data, dirty := true })

/-- Move the position and answer the new one. -/
def seek (handle : Handle) (destination : SeekTarget) : Except IoFault (Nat × Handle) := do
  handle.requireOpen
  let file ← handle.file.seek destination
  return (file.position, { handle with file := file })

/-- Cut the payload off, or fill it up with zeros. -/
def setLength (handle : Handle) (length : Nat) : Except IoFault (Unit × Handle) := do
  handle.requireWritable
  return ((), { handle with file := handle.file.setLength length, dirty := true })

end Handle

end RowPayload.Engine
