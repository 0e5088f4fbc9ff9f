import RowPayload.Error

/-!
# Byte files

A file is a sequence of bytes and a position in it. The position may lie past the
end: reading there gives nothing, and writing there fills the gap with zeros. Every
position fits 64 bits.
-/

namespace RowPayload

/-- A sequence of bytes with a position. -/
structure ByteFile where
  content : Bytes
  position : Nat
deriving DecidableEq

/-- Where to move the position: from the start, from the end or from where it is. -/
inductive SeekTarget where
  | start (offset : Nat)
  | fromEnd (offset : Int)
  | fromCurrent (offset : Int)
deriving DecidableEq

namespace ByteFile

/-- Positions are below this bound. -/
def positionBound : Nat := Nat.pow 2 64

/-- A file positioned at its start. -/
def ofContent (content : Bytes) : ByteFile := ⟨content, 0⟩

/-- The number of bytes. -/
def length (file : ByteFile) : Nat := file.content.length

/-- Content cut off, or filled up with zeros, to a length. -/
def resize (content : Bytes) (length : Nat) : Bytes :=
  content.take length ++ List.replicate (length - content.length) 0

/-- Read at most a number of bytes. -/
def read (file : ByteFile) (count : Nat) : Bytes × ByteFile :=
  let taken := (file.content.drop file.position).take count
  (taken, { file with position := file.position + taken.length })

/-- Write bytes over what follows the position. -/
def write (file : ByteFile) (data : Bytes) : ByteFile :=
  let after := file.position + data.length
  ⟨resize file.content file.position ++ data ++ file.content.drop after, after⟩

/-- The position a target stands for. -/
def target (file : ByteFile) : SeekTarget → Int
  | .start offset => offset
  | .fromEnd offset => file.length + offset
  | .fromCurrent offset => file.position + offset

/-- Move the position, if the new one fits. -/
def seek (file : ByteFile) (destination : SeekTarget) : Except IoFault ByteFile :=
  let position := file.target destination
  if 0 ≤ position ∧ position < positionBound then
    .ok { file with position := position.toNat }
  else .error .badSeek

/-- Cut the content off, or fill it up with zeros, and keep the position. -/
def setLength (file : ByteFile) (length : Nat) : ByteFile :=
  { file with content := resize file.content length }

end ByteFile

end RowPayload
