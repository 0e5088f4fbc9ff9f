import RowPayload.Engine.Backend
import RowPayload.Proofs.Engine.Inside
import RowPayload.Proofs.Session.FileOperation
import RowPayload.Proofs.Work.Laws

/-!
# Seats

What the beginning, the end and the loss of transactions and connections turn on is the seat of
each connection: its state, and the number of the transaction it holds. Statements and everything
that is done with payload handles leave every connection in its seat.
-/

namespace RowPayload.Engine

/-- A connection, kept as a flag for its state and, apart from it, the number of the transaction
it holds. -/
structure Seat where
  state : ConnectionState
  held : Option Nat
deriving DecidableEq

/-- A seat in which there is no connection any more, or none yet. -/
def Seat.vacant : Seat := ⟨.closed, none⟩

/-- The seat of a connection in a state. -/
def Connection.seat : Connection → Seat
  | .closed => .vacant
  | .ready => ⟨.ready, none⟩
  | .inTransaction transaction => ⟨.inTransaction, some transaction.number⟩

/-- The seat of a connection. -/
def Server.seat (server : Server) (id : Nat) : Seat := (server.connection id).seat

/-! ## Steps that keep every connection in its seat -/

/-- A step that leaves every connection in its seat, counts no transaction and no connection, and
has no bearing on whether the next transaction can begin. -/
structure Server.Seated (before after : Server) : Prop where
  seats : ∀ id, after.seat id = before.seat id
  next : after.connections.next = before.connections.next
  account : after.counters.account = before.counters.account
  failNextBegin : after.failNextBegin = before.failNextBegin

namespace Server

namespace Seated

variable {first second third : Server}

/-- Doing nothing leaves every connection in its seat. -/
theorem refl (server : Server) : Seated server server := ⟨fun _ => rfl, rfl, rfl, rfl⟩

/-- Steps that follow each other leave every connection in its seat. -/
theorem trans (earlier : Seated first second) (later : Seated second third) :
    Seated first third where
  seats := fun id => (later.seats id).trans (earlier.seats id)
  next := later.next.trans earlier.next
  account := later.account.trans earlier.account
  failNextBegin := later.failNextBegin.trans earlier.failNextBegin

/-- A step that changes no connection. -/
theorem of_eq (connections : second.connections = first.connections)
    (account : second.counters.account = first.counters.account)
    (failNextBegin : second.failNextBegin = first.failNextBegin) : Seated first second where
  seats := by
    intro id
    rw [seat, seat, connection, connection, connections]
  next := by rw [connections]
  account := account
  failNextBegin := failNextBegin

end Seated

/-- Putting a connection that is not closed into a state changes its seat only. -/
theorem seat_setConnection {server : Server} {id : Nat} (alive : server.connection id ≠ .closed)
    (state : Connection) (other : Nat) :
    (server.setConnection id state).seat other =
      if other = id then state.seat else server.seat other := by
  rw [seat, seat, connection_setConnection alive]
  split <;> rfl

/-- A transaction that goes on leaves every connection in its seat. -/
theorem seated_setConnection {server : Server} {holder : Nat} {transaction later : Transaction}
    (held : server.connection holder = .inTransaction transaction)
    (same : later.identity = transaction.identity) :
    Seated server (server.setConnection holder (.inTransaction later)) where
  seats := by
    intro id
    have alive : server.connection holder ≠ .closed := by simp [held]
    have number : later.number = transaction.number := congrArg Prod.fst same
    rw [seat_setConnection alive]
    split
    · rename_i here
      rw [here, seat, held, Connection.seat, Connection.seat, number]
    · rfl
  next := rfl
  account := rfl
  failNextBegin := rfl

/-- Running a statement leaves every connection in its seat. -/
theorem seated_run (server : Server) (id : Nat) (command : Command) :
    Seated server (server.run id command).2 := by
  cases connected : server.connection id with
  | closed =>
    simp only [run, connected]
    exact .refl server
  | ready =>
    simp only [run, connected, runOpen]
    cases Sql.parse command.sql with
    | error fault => exact .refl server
    | ok statement =>
      dsimp only
      cases (server.scene .ready command.parameters).run statement with
      | error failure => exact .of_eq rfl rfl rfl
      | ok effect =>
        dsimp only
        cases effect.written <;> exact .of_eq rfl rfl rfl
  | inTransaction transaction =>
    rcases run_inTransaction connected command with
      same | ⟨inserted, updated, same⟩ | ⟨statement, effect, name, table, -, -, same⟩
    · rw [same]
      exact .refl server
    · rw [same]
      exact .of_eq rfl rfl rfl
    · rw [same]
      exact (seated_setConnection connected (transaction.identity_writeTable name table)).trans
        (.of_eq rfl rfl rfl)

/-- Executing a statement leaves every connection in its seat. -/
theorem seated_execute (server : Server) (id : Nat) (command : Command) :
    Seated server (server.execute id command).2 := by
  rw [execute_snd]
  exact seated_run server id command

/-- A query leaves every connection in its seat. -/
theorem seated_query (server : Server) (id : Nat) (command : Command) :
    Seated server (server.query id command).2 := by
  rw [query_snd]
  have counted : Seated server server.countQuery := .of_eq rfl rfl rfl
  exact counted.trans (seated_run server.countQuery id command)

/-- Opening a payload leaves every connection in its seat. -/
theorem seated_openPayload (server : Server) (id : Nat) (path : String) (token : Bytes)
    (access : Access) : Seated server (server.openPayload id path token access).2 := by
  unfold openPayload
  split
  · exact .refl server
  · exact .refl server
  · split
    · exact .refl server
    · split
      · exact .refl server
      · exact .of_eq rfl rfl rfl

/-- Work on a handle alone leaves every connection in its seat. -/
theorem seated_onHandle {α : Type} (server : Server) (number : Nat)
    (work : Handle → Except IoFault (α × Handle)) :
    Seated server (server.onHandle number work).2 := by
  unfold onHandle
  split
  · exact .refl server
  · split
    · exact .refl server
    · exact .of_eq rfl rfl rfl

/-- Writing a handle back leaves every connection in its seat. -/
theorem seated_writeBack (server : Server) (number : Nat) (handle : Handle) :
    Seated server (server.writeBack number handle).2 := by
  unfold writeBack
  split
  · exact .refl server
  · split
    · exact .refl server
    · rename_i transaction found
      split
      · exact .refl server
      · rename_i changed written
        have held := (connection_of_transactionOf? found).1
        have same := Transaction.identity_writeCell? written
        exact (seated_setConnection held same).trans (.of_eq rfl rfl rfl)

/-- Flushing a handle leaves every connection in its seat. -/
theorem seated_flushPayload (server : Server) (number : Nat) :
    Seated server (server.flushPayload number).2 := by
  unfold flushPayload
  split
  · exact .refl server
  · split
    · exact seated_writeBack server number _
    · exact .refl server

/-- Closing a handle leaves every connection in its seat. -/
theorem seated_closePayload (server : Server) (number : Nat) :
    Seated server (server.closePayload number).2 := by
  unfold closePayload
  split
  · exact .refl server
  · rename_i handle _
    split
    · have closing : Seated server (server.setHandle number { handle with isOpen := false }) :=
        .of_eq rfl rfl rfl
      exact closing.trans (seated_writeBack _ number _)
    · exact .refl server

/-- Releasing a handle leaves every connection in its seat. -/
theorem seated_releasePayload (server : Server) (number : Nat) :
    Seated server (server.releasePayload number) :=
  .trans (seated_closePayload server number) (.of_eq rfl rfl rfl)

/-- A call on a payload leaves every connection in its seat. -/
theorem seated_call (server : Server) (payload : Nat) (operation : FileOperation) :
    Seated server ((operation.perform payload).perform server).2 := by
  cases operation <;> simp only [FileOperation.perform, Work.perform_map]
  case read count => exact seated_onHandle server payload _
  case write data => exact seated_onHandle server payload _
  case seek destination => exact seated_onHandle server payload _
  case setLength size => exact seated_onHandle server payload _
  case flush => exact seated_flushPayload server payload
  case position => exact seated_onHandle server payload _
  case length => exact .refl server

end Server

end RowPayload.Engine
