import RowPayload.Backend.Basic
import RowPayload.Connection.SettingsText
import RowPayload.Lifecycle

/-!
# Transaction contexts

A context pairs a connection that is in a transaction with the descriptor a session
works with. The connection is owned, opened by the context, which commits or rolls
back its transaction and closes it; or it is borrowed, and then finishing the
context leaves it alone.

Once finished, a context does nothing any more. Finishing it counts even if the
backend reports a failure.
-/

namespace RowPayload

/-- Whether the transaction of a context is over, and how it ended. -/
inductive ContextState where
  | active
  | committed
  | rolledBack
deriving DecidableEq

namespace ContextState

/-- The state in words. -/
def name : ContextState → String
  | .active => "active"
  | .committed => "committed"
  | .rolledBack => "rolled back"

/-- The state as descriptions show it. -/
def describe : ContextState → String
  | .active => "Active"
  | .committed => "Committed"
  | .rolledBack => "RolledBack"

end ContextState

/-- A connection, whether it is owned, and what its transaction is for. -/
structure Context where
  descriptor : Descriptor
  connection : Nat
  owned : Bool
  state : ContextState

/-- A backend and the surroundings of the sessions on it. -/
structure World (σ ε : Type) where
  store : σ
  surroundings : ε

/-- What the actions of a context read and change: the context and its world. -/
structure Scope (σ ε : Type) extends World σ ε where
  context : Context

/-- An action of a context. -/
abbrev Scoped (σ ε : Type) := Work Error (Scope σ ε)

namespace Scope

variable {φ σ ε α : Type}

/-- Work on the backend. -/
def onStore (work : Work φ σ α) : Work φ (Scope σ ε) α :=
  work.onPart (fun scope => scope.store) fun scope store => { scope with store := store }

/-- Work on the surroundings. -/
def onSurroundings (work : Work φ ε α) : Work φ (Scope σ ε) α :=
  work.onPart (fun scope => scope.surroundings) fun scope surroundings =>
    { scope with surroundings := surroundings }

end Scope

namespace Context

/-- A context on a connection that its holder keeps. -/
def borrowed (descriptor : Descriptor) (connection : Nat) : Context :=
  ⟨descriptor, connection, false, .active⟩

/-- Whether the transaction is in progress. -/
def isActive (context : Context) : Bool := context.state == .active

/-- The context as descriptions show it. -/
def describe (context : Context) : String :=
  "TransactionContext \x7b table: " ++ Text.quoted context.descriptor.table ++ ", owned: " ++
    (if context.owned then "true" else "false") ++ ", state: " ++ context.state.describe ++
    " \x7d"

variable {σ ε α : Type} [Backend σ]

/-- Open a connection and begin a transaction on it. A connection on which no
transaction begins is closed again. -/
def owned? (descriptor : Descriptor) (settings : String) : Work Error σ Context := do
  let connection ← Backend.connect settings
  match ← (Backend.beginTransaction connection : Work Error σ Unit).attempt with
  | .ok () => return ⟨descriptor, connection, true, .active⟩
  | .error fault =>
    let _ ← ((Backend.close connection : Work Error σ Unit).attempt : Work Error σ _)
    modify fun store => Backend.release store connection
    throw fault

/-- Open a context with settings, which have to be valid. -/
def ofSettings? (descriptor : Descriptor) (settings : Settings) : Work Error σ Context := do
  settings.validate
  owned? descriptor settings.connectionString

/-- The transaction must be in progress. -/
def requireActive : Scoped σ ε Unit := do
  let state := (← get).context.state
  unless state = .active do throw (.transactionFinished state.name)

/-- Work with the connection while the transaction is in progress. -/
def onConnection (work : Nat → Work Error σ α) : Scoped σ ε α := do
  requireActive
  Scope.onStore (work (← get).context.connection)

/-- Execute a statement. -/
def execute (command : Command) : Scoped σ ε Nat :=
  onConnection fun connection => Backend.execute connection command

/-- Run a query. -/
def query (command : Command) : Scoped σ ε ResultSet :=
  onConnection fun connection => Backend.query connection command

/-- Insert a row with an empty payload. -/
def createRow (row : NewRow ε) : Scoped σ ε Nat := do
  let command ← Scope.onSurroundings (Lifecycle.createNew (← get).context.descriptor row)
  execute command

/-- Finish the transaction. An owned connection takes a last step and is closed, and
the failure of the step is reported before that of closing. -/
def finish (state : ContextState) (step : Nat → Work Error σ Unit) : Scoped σ ε Unit := do
  requireActive
  modify fun scope => { scope with context := { scope.context with state := state } }
  let context := (← get).context
  if context.owned then
    let stepped ← (Scope.onStore (step context.connection) : Scoped σ ε Unit).attempt
    let closed ← (Scope.onStore (Backend.close context.connection) : Scoped σ ε Unit).attempt
    Work.ofResult stepped
    Work.ofResult closed

/-- Commit the transaction. -/
def commit : Scoped σ ε Unit := finish .committed Backend.commit

/-- Roll the transaction back. -/
def rollback : Scoped σ ε Unit := finish .rolledBack Backend.rollback

/-- Give up a context. One that owns its connection rolls back a transaction in
progress and closes the connection, whatever fails. -/
def release (context : Context) (store : σ) : σ :=
  if context.owned then
    let left :=
      if context.isActive then
        let rolledBack := (Backend.rollback context.connection).perform store
        ((Backend.close context.connection).perform rolledBack.2).2
      else store
    Backend.release left context.connection
  else store

end Context

/-- Give up the context of a scope. -/
def Scope.leave {σ ε : Type} [Backend σ] (scope : Scope σ ε) : World σ ε :=
  { scope.toWorld with store := scope.context.release scope.store }

end RowPayload
