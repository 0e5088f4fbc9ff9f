import RowPayload.Backend.Scripted
import RowPayload.Engine.Server
import RowPayload.Exchange.Value

/-!
# Exchanging what backends are told

The tables a server is given, the targets of seeking, and the calls that a scripted
backend has recorded.
-/

namespace RowPayload.Exchange

open Engine

/-- A table as it is given: its name and its columns, each of some kind. -/
def readTable (json : Json) : Reading Table := do
  let columns ← json.itemsAt "columns" Json.asTextPair
  let step (table : Table) (column : String × String) : Reading Table :=
    match column.1 with
    | "key" => .ok (table.withKey column.2)
    | "column" => .ok (table.withColumn column.2)
    | "blob" => .ok (table.withPayload column.2)
    | _ => .error .malformed
  columns.foldlM step (Table.empty (← json.textAt "name"))

/-- Counters as they are shown, with the number of open connections last. -/
def writeCounters (counters : Counters) : Json :=
  .array ([counters.statements, counters.queries, counters.inserts, counters.updates,
    counters.begins, counters.commits, counters.rollbacks, counters.payloadsOpened,
    counters.connectionsOpened, counters.connectionsClosed,
    counters.openConnections].map fun count : Nat => Json.ofInt count)

/-- A target of seeking as it is given. -/
def readTarget : Json → Reading SeekTarget
  | .array [.string (some "start"), offset] => do return .start (← offset.asNat)
  | .array [.string (some "end"), offset] => do return .fromEnd (← offset.asInt)
  | .array [.string (some "current"), offset] => do return .fromCurrent (← offset.asInt)
  | _ => .error .malformed

/-- A target of seeking as it is shown. -/
def writeTarget : SeekTarget → List Json
  | .start offset => [.ofText "start", .ofInt offset]
  | .fromEnd offset => [.ofText "end", .ofInt offset]
  | .fromCurrent offset => [.ofText "current", .ofInt offset]

/-- A recorded call as it is shown. Bytes are shown in full, however many there are. -/
def writeCall (call : Call) : Json :=
  let shown (name : String) (contents : List Json) : Json := .array (.ofText name :: contents)
  match call with
  | .connect settings => shown "connect" [.ofText settings]
  | .beginTransaction => shown "begin" []
  | .commit => shown "commit" []
  | .rollback => shown "rollback" []
  | .close => shown "close" []
  | .execute command => shown "execute" [writeCommand command]
  | .query command => shown "query" [writeCommand command]
  | .openPayload path token access =>
    shown "open_blob" [.ofText path, .ofText (Text.bytesHex token), .ofText access.name]
  | .write data => shown "blob write" [.ofText (Text.bytesHex data)]
  | .flush => shown "blob flush" []
  | .seek destination => shown "blob seek" (writeTarget destination)
  | .setLength length => shown "blob set_len" [.ofInt length]
  | .closePayload => shown "blob close" []

end RowPayload.Exchange
