import RowPayload.Backend.Basic

/-!
# Operations on an opened payload

The calls a session makes on its payload between opening and closing it, as data, so
that statements can speak of every sequence of them.
-/

namespace RowPayload

/-- A call on an opened payload. -/
inductive FileOperation where
  | read (count : Nat)
  | write (data : Bytes)
  | seek (destination : SeekTarget)
  | setLength (length : Nat)
  | flush
  | position
  | length
deriving DecidableEq

/-- What a call on an opened payload answers. -/
inductive FileAnswer where
  | bytes (data : Bytes)
  | number (value : Nat)
  | done
deriving DecidableEq

namespace FileOperation

variable {σ : Type} [Backend σ]

/-- Make a call on a payload. -/
def perform (payload : Nat) : FileOperation → Work IoFault σ FileAnswer
  | .read count => .bytes <$> Backend.read payload count
  | .write data => .number <$> Backend.write payload data
  | .seek destination => .number <$> Backend.seek payload destination
  | .setLength size => (fun _ => .done) <$> Backend.setLength payload size
  | .flush => (fun _ => .done) <$> Backend.flush payload
  | .position => .number <$> Backend.position payload
  | .length => (fun store => .number (Backend.payloadLength store payload)) <$> get

end FileOperation

end RowPayload
