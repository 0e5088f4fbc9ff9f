import RowPayload.Materialize
import RowPayload.Session.Options

/-!
# Streams

A stream is a session on one row: the row's payload, opened within a transaction.
Opening it checks the options, compiles the filter, runs the statement of the mode,
asks for the path locator and the token, rebuilds the record if the payload may be
read, and opens the payload. Should any of this fail, the transaction is rolled
back.

Closing a stream closes the payload, runs the hook and commits; aborting it closes
the payload and rolls back. Both use the stream up.
-/

namespace RowPayload

/-- A session on one row. -/
structure Stream (σ ε ρ : Type) where
  context : Context
  payload : Nat
  row : Option ρ
  mode : OpenMode
  access : Access
  path : String
  onClose : Option (CloseHook σ ε)

namespace Stream

variable {σ ε ρ α : Type}

/-- What opening a stream has found and opened. -/
structure Opened (ρ : Type) where
  payload : Nat
  row : Option ρ
  path : String

/-- The path locator, which has to be the first column of the handle query. -/
def locator (row : ResultRow) : Except Error String :=
  match (row.values[0]? : Option Value) with
  | some (.text path) => .ok path
  | other => .error (.store (.locator "path locator" (other.map Value.typeName)))

/-- The token, which has to be the second column of the handle query. -/
def token (row : ResultRow) : Except Error Bytes :=
  match (row.values[1]? : Option Value) with
  | some (.bytes token) => .ok token
  | other => .error (.store (.locator "transaction token" (other.map Value.typeName)))

/-- The record a row holds, if the payload may be read. -/
def recordOf (schema : Schema ρ) (descriptor : Descriptor) (access : Access) (row : ResultRow) :
    Except Error (Option ρ) :=
  if access.canRead then
    (Materialize.record schema descriptor [descriptor.payload] row).map some
  else .ok none

variable [Backend σ]

/-- Move to the end of a payload that was just opened, and give the payload up if
this fails. -/
def seekEnd (payload : Nat) : Scoped σ ε Unit := do
  match ← (Scope.onStore (Backend.seek payload (.fromEnd 0)) :
      Work IoFault (Scope σ ε) Nat).attempt with
  | .ok _ => return ()
  | .error fault =>
    modify fun scope => { scope with store := Backend.releasePayload scope.store payload }
    throw (.io fault)

/-- Prepare the row: check the options, compile the filter, which is answered, and run the
statement of the mode. -/
def prepareRow (options : Options σ ε) : Scoped σ ε Clause := do
  options.validate
  let descriptor := (← get).context.descriptor
  let filter ← Scope.onSurroundings (options.filter.compile descriptor)
  let lifecycle ← Scope.onSurroundings
    (Lifecycle.command descriptor options.mode filter options.newRow)
  if let some command := lifecycle then
    let _ ← Context.execute command
  return filter

/-- Find the row that a filter matches and open its payload. -/
def openRow (schema : Schema ρ) (options : Options σ ε) (filter : Clause) :
    Scoped σ ε (Opened ρ) := do
  let descriptor := (← get).context.descriptor
  let result ← Context.query (Lifecycle.handleQuery descriptor filter options.access.canRead)
  let some row := result.first?
    | throw (.rowNotFound descriptor.table filter.sql)
  let path ← locator row
  let token ← token row
  let record ← recordOf schema descriptor options.access row
  let payload ← Context.onConnection fun connection =>
    Backend.openPayload connection path token options.access
  if options.mode = .append then seekEnd payload
  return ⟨payload, record, path⟩

/-- Prepare the row and open its payload. -/
def prepare (schema : Schema ρ) (options : Options σ ε) : Scoped σ ε (Opened ρ) := do
  openRow schema options (← prepareRow options)

/-- Roll the transaction back if it is in progress, whatever that reports. -/
def abandon : Scoped σ ε Unit := do
  if (← get).context.isActive then
    let _ ← (Context.rollback : Scoped σ ε Unit).attempt

/-- Open a stream on a context, which is used up. -/
def openOn (context : Context) (schema : Schema ρ) (options : Options σ ε) :
    Work Error (World σ ε) (Stream σ ε ρ) :=
  .ofFunction fun world =>
    match (prepare schema options).perform ⟨world, context⟩ with
    | (.ok opened, scope) =>
      (.ok ⟨scope.context, opened.payload, opened.row, options.mode, options.access, opened.path,
        options.onClose⟩, scope.toWorld)
    | (.error fault, scope) => (.error fault, (abandon.perform scope).2.leave)

/-- Close the payload of a stream and give its handle up. -/
def closePayload (payload : Nat) : Scoped σ ε (Except IoFault Unit) := do
  let closed ← (Scope.onStore (Backend.closePayload payload) :
    Work IoFault (Scope σ ε) Unit).attempt
  modify fun scope => { scope with store := Backend.releasePayload scope.store payload }
  return closed

/-- Run a hook, if there is one. -/
def runHook : Option (CloseHook σ ε) → Scoped σ ε Unit
  | none => return ()
  | some hook => hook

/-- Commit the transaction if it is in progress. -/
def settle : Scoped σ ε Unit := do
  if (← get).context.isActive then Context.commit

/-- Roll the transaction back if it is in progress. -/
def withdraw : Scoped σ ε Unit := do
  if (← get).context.isActive then Context.rollback

/-- Close the payload, run the hook and commit. A failure to commit is reported
before one of the hook, and that before one of closing the payload. -/
def close (stream : Stream σ ε ρ) : Work Error (World σ ε) Unit :=
  .ofFunction fun world =>
    let steps : Scoped σ ε Unit := do
      let closed ← closePayload stream.payload
      let hooked ← (runHook stream.onClose).attempt
      let committed ← (settle : Scoped σ ε Unit).attempt
      Work.ofResult committed
      Work.ofResult hooked
      Work.ofResult (closed.mapError Error.io)
    let (result, scope) := steps.perform ⟨world, stream.context⟩
    (result, scope.leave)

/-- Close the payload and roll back. A failure to roll back is reported before one of
closing the payload. The hook is not run. -/
def abort (stream : Stream σ ε ρ) : Work Error (World σ ε) Unit :=
  .ofFunction fun world =>
    let steps : Scoped σ ε Unit := do
      let closed ← closePayload stream.payload
      let rolledBack ← (withdraw : Scoped σ ε Unit).attempt
      Work.ofResult rolledBack
      Work.ofResult (closed.mapError Error.io)
    let (result, scope) := steps.perform ⟨world, stream.context⟩
    (result, scope.leave)

/-- Act on the context of a stream. -/
def act (stream : Stream σ ε ρ) (action : Scoped σ ε α) (world : World σ ε) :
    Except Error α × Stream σ ε ρ × World σ ε :=
  let (result, scope) := action.perform ⟨world, stream.context⟩
  (result, { stream with context := scope.context }, scope.toWorld)

/-- The record, which is then gone from the stream. -/
def takeRow (stream : Stream σ ε ρ) : Option ρ × Stream σ ε ρ :=
  (stream.row, { stream with row := none })

/-- The name of the state a stream is in as long as there is one. -/
def stateName : String := "HandleOpen"

/-- The stream as descriptions show it. -/
def describe (stream : Stream σ ε ρ) : String :=
  "RowStream \x7b path: " ++ Text.quoted stream.path ++ ", mode: " ++ stream.mode.name ++
    ", access: " ++ stream.access.name ++ ", state: " ++ stateName ++ " \x7d"

end Stream

end RowPayload
