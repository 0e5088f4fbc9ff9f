import RowPayload.Backend.Basic
import RowPayload.Engine.Payload

/-!
# Servers as backends

A database server is a backend. Its failures are reported as refusals by the
database.
-/

namespace RowPayload.Engine.Server

/-- Work done by an operation of a server. -/
def work {α : Type} (operation : Server → Except Failure α × Server) : Work Error Server α :=
  .ofFunction fun server =>
    let (result, after) := operation server
    (result.mapError Error.ofEngine, after)

/-- The state of a connection, as backends report it. -/
def connectionState (server : Server) (id : Nat) : ConnectionState :=
  match server.connection id with
  | .closed => .closed
  | .ready => .ready
  | .inTransaction _ => .inTransaction

instance : Backend Server where
  connect settings := .ofFunction fun server => server.connect settings
  connectionState := connectionState
  beginTransaction id := work fun server => server.beginTransaction id
  commit id := work fun server => server.commit id
  rollback id := work fun server => server.rollback id
  close id := .ofFunction fun server => (.ok (), server.close id)
  release := release
  execute id command := work fun server => server.execute id command
  query id command := work fun server => server.query id command
  openPayload id path token access := work fun server => server.openPayload id path token access
  read payload count := .ofFunction fun server =>
    server.onHandle payload fun handle => handle.read count
  write payload data := .ofFunction fun server =>
    server.onHandle payload fun handle => handle.write data
  flush payload := .ofFunction fun server => server.flushPayload payload
  seek payload destination := .ofFunction fun server =>
    server.onHandle payload fun handle => handle.seek destination
  setLength payload length := .ofFunction fun server =>
    server.onHandle payload fun handle => handle.setLength length
  closePayload payload := .ofFunction fun server => server.closePayload payload
  releasePayload := releasePayload
  payloadLength := payloadLength
  canRead := canReadPayload
  canWrite := canWritePayload

end RowPayload.Engine.Server
