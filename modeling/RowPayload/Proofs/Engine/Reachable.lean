import RowPayload.Engine.Backend
import RowPayload.Proofs.Engine.Cell
import RowPayload.Proofs.Engine.Inside
import RowPayload.Proofs.Session.FileOperation
import RowPayload.Proofs.Work.Laws

/-!
# Reachable servers

A server starts without tables and takes requests one after another: tables without rows
are filed, connections opened, statements run, payloads opened and written. A server is sound
if its committed tables are, and those that transactions see.
-/

namespace RowPayload.Engine

/-- What a server can be asked for. -/
inductive Request where
  | createTable (table : Table) (blank : table.rows = [])
  | resetCounters
  | refuseNextBegin
  | refuseNextCommit
  | connect (settings : String)
  | beginTransaction (id : Nat)
  | commit (id : Nat)
  | rollback (id : Nat)
  | close (id : Nat)
  | release (id : Nat)
  | execute (id : Nat) (command : Command)
  | query (id : Nat) (command : Command)
  | openPayload (id : Nat) (path : String) (token : Bytes) (access : Access)
  | call (payload : Nat) (operation : FileOperation)
  | closePayload (payload : Nat)
  | releasePayload (payload : Nat)

/-- The server after a request, whatever it answered. -/
def Request.serve (server : Server) : Request → Server
  | .createTable table _ => server.createTable table
  | .resetCounters => server.resetCounters
  | .refuseNextBegin => server.refuseNextBegin
  | .refuseNextCommit => server.refuseNextCommit
  | .connect settings => (server.connect settings).2
  | .beginTransaction id => (server.beginTransaction id).2
  | .commit id => (server.commit id).2
  | .rollback id => (server.rollback id).2
  | .close id => server.close id
  | .release id => server.release id
  | .execute id command => (server.execute id command).2
  | .query id command => (server.query id command).2
  | .openPayload id path token access => (server.openPayload id path token access).2
  | .call payload operation => ((operation.perform payload).perform server).2
  | .closePayload payload => (server.closePayload payload).2
  | .releasePayload payload => server.releasePayload payload

/-- The servers that requests lead to. -/
inductive Server.Reachable : Server → Prop where
  | start (secret : Bytes) : Reachable (.ofSecret secret)
  | serve {server : Server} (reached : Reachable server) (request : Request) :
      Reachable (request.serve server)

/-- A call on an opened payload is a step inside every transaction. -/
theorem Server.inside_fileOperation (id payload : Nat) (operation : FileOperation)
    (server : Server) : Inside id server ((operation.perform payload).perform server).2 := by
  cases operation <;> simp only [FileOperation.perform, Work.perform_map]
  case read count => exact inside_onHandle id server payload _
  case write data => exact inside_onHandle id server payload _
  case seek destination => exact inside_onHandle id server payload _
  case setLength size => exact inside_onHandle id server payload _
  case flush => exact inside_flushPayload id server payload
  case position => exact inside_onHandle id server payload _
  case length => exact .refl id server

/-! ## Soundness -/

/-- Every table a transaction sees is sound. -/
def Transaction.Sound (transaction : Transaction) : Prop :=
  ∀ name table, transaction.table? name = some table → table.Sound

namespace Server

/-- The committed tables are sound, and so is every transaction in progress. -/
structure Sound (server : Server) : Prop where
  catalog : ∀ name table, server.catalog.get? name = some table → table.Sound
  transactions : ∀ id transaction, server.connection id = .inTransaction transaction →
    transaction.Sound

namespace Sound

variable {server after : Server}

/-- Only the committed tables and the connections bear on soundness. -/
theorem of_eq (sound : server.Sound) (catalog : after.catalog = server.catalog)
    (connections : after.connections = server.connections) : after.Sound where
  catalog := by
    rw [catalog]
    exact sound.catalog
  transactions := by
    intro id transaction held
    apply sound.transactions id transaction
    rw [← held, connection, connection, connections]

/-- What a statement sees is sound. -/
theorem scene (sound : server.Sound) {id : Nat} {state : Connection}
    (connected : server.connection id = state) (parameters : List Parameter) :
    (server.scene state parameters).Sound := by
  unfold Server.scene
  split
  · exact sound.transactions id _ connected
  · exact sound.catalog
  · exact sound.catalog

end Sound

/-- A statement of a connection in a transaction that sees sound tables leaves it in one. -/
theorem sound_run_inTransaction {server : Server} {id : Nat} {transaction : Transaction}
    (held : server.connection id = .inTransaction transaction) (sound : transaction.Sound)
    (command : Command) :
    ∃ later, (server.run id command).2.connection id = .inTransaction later ∧
      later.identity = transaction.identity ∧ later.Sound := by
  rcases run_inTransaction held command with
    same | ⟨inserted, updated, same⟩ | ⟨statement, effect, name, table, ran, written, same⟩
  · rw [same]
    exact ⟨transaction, held, rfl, sound⟩
  · rw [same]
    exact ⟨transaction, held, rfl, sound⟩
  · have alive : server.connection id ≠ .closed := by simp [held]
    have seen : (server.scene (.inTransaction transaction) command.parameters).Sound := sound
    have wrote := Scene.sound_run seen ran written
    refine ⟨transaction.writeTable name table, ?_, rfl,
      Transaction.holds_writeTable sound wrote⟩
    rw [same]
    show (server.setConnection id _).connection id = _
    rw [connection_setConnection alive, if_pos rfl]

end Server

end RowPayload.Engine
