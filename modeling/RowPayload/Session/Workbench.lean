import RowPayload.Exchange.Refusal
import RowPayload.Session.Stream

/-!
# Workbenches

A workbench holds connections, payload handles, contexts and streams under names. A
connection that is lent to a context cannot be used until the context, or the stream
opened on it, is gone. Opening a stream uses its context up, and closing, aborting or
dropping a stream uses the stream up, even if it fails.
-/

namespace RowPayload

/-- Something that is held, and the connection that was lent to it. -/
structure Held (α : Type) where
  content : α
  lender : Option String

/-- What is held under names, in the world it belongs to. -/
structure Workbench (σ ε ρ : Type) where
  world : World σ ε
  /-- The connections, and whether they are lent. -/
  connections : OrderedMap String (Nat × Bool)
  payloads : OrderedMap String Nat
  contexts : OrderedMap String (Held Context)
  streams : OrderedMap String (Held (Stream σ ε ρ))

/-- Work on a workbench. -/
abbrev Bench (σ ε ρ : Type) := Work Refusal (Workbench σ ε ρ)

namespace Workbench

variable {σ ε ρ α φ : Type}

/-- A workbench on which nothing is held. -/
def ofWorld (world : World σ ε) : Workbench σ ε ρ :=
  ⟨world, .empty, .empty, .empty, .empty⟩

/-- Something that has to be held. -/
def requireHeld : Option α → Bench σ ε ρ α
  | some content => return content
  | none => throw .unknownName

/-- Work on the world. -/
def onWorld (work : Work Error (World σ ε) α) : Bench σ ε ρ α :=
  ExceptT.adapt Refusal.failed
    (work.onPart (fun bench : Workbench σ ε ρ => bench.world) fun bench world =>
      { bench with world := world })

/-- Work on the backend. -/
def onStore (refuse : φ → Refusal) (work : Work φ σ α) : Bench σ ε ρ α :=
  ExceptT.adapt refuse
    (work.onPart (fun bench : Workbench σ ε ρ => bench.world.store) fun bench store =>
      { bench with world := { bench.world with store := store } })

/-- Work on the surroundings. -/
def onSurroundings (work : Work Refusal ε α) : Bench σ ε ρ α :=
  work.onPart (fun bench => bench.world.surroundings) fun bench surroundings =>
    { bench with world := { bench.world with surroundings := surroundings } }

/-- Change the backend. -/
def changeStore (change : σ → σ) : Bench σ ε ρ Unit :=
  modify fun bench => { bench with world := { bench.world with store := change bench.world.store } }

/-! ## Connections -/

/-- The connection with a name, which must not be lent. -/
def connection (name : String) : Bench σ ε ρ Nat := do
  let (id, isLent) ← requireHeld ((← get).connections.get? name)
  if isLent then throw .lent
  return id

/-- Hold a connection. -/
def holdConnection (name : String) (id : Nat) (isLent : Bool) : Bench σ ε ρ Unit :=
  modify fun bench => { bench with connections := bench.connections.insert name (id, isLent) }

/-- Give a lent connection back. -/
def giveBack (lender : Option String) : Bench σ ε ρ Unit := do
  if let some name := lender then
    if let some (id, _) := (← get).connections.get? name then holdConnection name id false

variable [Backend σ]

/-- Open a connection. -/
def connect (name settings : String) : Bench σ ε ρ Unit := do
  holdConnection name (← onStore .failed (Backend.connect settings)) false

/-- Work with a connection. -/
def onConnection (name : String) (work : Nat → Work Error σ α) : Bench σ ε ρ α := do
  onStore .failed (work (← connection name))

/-- Drop a connection. -/
def dropConnection (name : String) : Bench σ ε ρ Unit := do
  let id ← connection name
  changeStore fun store => Backend.release store id
  modify fun bench => { bench with connections := bench.connections.erase name }

/-! ## Payload handles -/

/-- Open a payload on a connection. -/
def openPayload (name connectionName path : String) (token : Bytes) (access : Access) :
    Bench σ ε ρ Unit := do
  let payload ← onConnection connectionName fun id => Backend.openPayload id path token access
  modify fun bench => { bench with payloads := bench.payloads.insert name payload }

/-- The payload handle with a name. -/
def payload (name : String) : Bench σ ε ρ Nat := do requireHeld ((← get).payloads.get? name)

/-- Drop a payload handle. -/
def dropPayload (name : String) : Bench σ ε ρ Unit := do
  let handle ← payload name
  changeStore fun store => Backend.releasePayload store handle
  modify fun bench => { bench with payloads := bench.payloads.erase name }

/-! ## Contexts -/

/-- Hold a context. -/
def holdContext (name : String) (held : Held Context) : Bench σ ε ρ Unit :=
  modify fun bench => { bench with contexts := bench.contexts.insert name held }

/-- The context with a name. -/
def context (name : String) : Bench σ ε ρ (Held Context) := do
  requireHeld ((← get).contexts.get? name)

/-- Open a context that owns its connection. -/
def openContext (name : String) (opening : Work Error σ Context) : Bench σ ε ρ Unit := do
  holdContext name ⟨← onStore .failed opening, none⟩

/-- Lend a connection to a new context. -/
def lendContext (name connectionName : String) (descriptor : Descriptor) :
    Bench σ ε ρ Unit := do
  let id ← connection connectionName
  holdConnection connectionName id true
  holdContext name ⟨.borrowed descriptor id, some connectionName⟩

/-- Act on a context of a workbench and put the context back. -/
def act (bench : Workbench σ ε ρ) (context : Context)
    (replace : Workbench σ ε ρ → Context → Workbench σ ε ρ)
    (action : Work Refusal (Scope σ ε) α) : Except Refusal α × Workbench σ ε ρ :=
  let (result, scope) := action.perform ⟨bench.world, context⟩
  (result, replace { bench with world := scope.toWorld } scope.context)

/-- Act on a context. -/
def inContext (name : String) (action : Work Refusal (Scope σ ε) α) : Bench σ ε ρ α := do
  let held ← context name
  .ofFunction fun bench =>
    bench.act held.content (fun bench changed =>
      { bench with contexts := bench.contexts.insert name { held with content := changed } }) action

/-- Drop a context. -/
def dropContext (name : String) : Bench σ ε ρ Unit := do
  let held ← context name
  changeStore held.content.release
  modify fun bench => { bench with contexts := bench.contexts.erase name }
  giveBack held.lender

/-! ## Streams -/

/-- The stream with a name. -/
def stream (name : String) : Bench σ ε ρ (Held (Stream σ ε ρ)) := do
  requireHeld ((← get).streams.get? name)

/-- Hold a stream. -/
def holdStream (name : String) (held : Held (Stream σ ε ρ)) : Bench σ ε ρ Unit :=
  modify fun bench => { bench with streams := bench.streams.insert name held }

/-- Open a stream on a context. -/
def openStream (name contextName : String) (schema : Schema ρ) (options : Options σ ε) :
    Bench σ ε ρ (Stream σ ε ρ) := do
  let held ← context contextName
  modify fun bench => { bench with contexts := bench.contexts.erase contextName }
  match ← (onWorld (Stream.openOn held.content schema options) : Bench σ ε ρ _).attempt with
  | .error refusal =>
    giveBack held.lender
    throw refusal
  | .ok opened =>
    holdStream name ⟨opened, held.lender⟩
    return opened

/-- Act on the context of a stream. -/
def inStream (name : String) (action : Work Refusal (Scope σ ε) α) : Bench σ ε ρ α := do
  let held ← stream name
  .ofFunction fun bench =>
    bench.act held.content.context (fun bench changed =>
      { bench with
        streams := bench.streams.insert name
          { held with content := { held.content with context := changed } } }) action

/-- Take the record out of a stream. -/
def takeRow (name : String) : Bench σ ε ρ (Option ρ) := do
  let held ← stream name
  let (row, left) := held.content.takeRow
  holdStream name { held with content := left }
  return row

/-- End a stream in some way. -/
def endStream (name : String) (finish : Stream σ ε ρ → Work Error (World σ ε) Unit) :
    Bench σ ε ρ Unit := do
  let held ← stream name
  modify fun bench => { bench with streams := bench.streams.erase name }
  let result ← (onWorld (finish held.content) : Bench σ ε ρ Unit).attempt
  giveBack held.lender
  Work.ofResult result

/-- Close a stream. -/
def closeStream (name : String) : Bench σ ε ρ Unit := endStream name Stream.close

/-- Abort a stream. -/
def abortStream (name : String) : Bench σ ε ρ Unit := endStream name Stream.abort

/-- Drop a stream, which closes it, whatever that reports. -/
def dropStream (name : String) : Bench σ ε ρ Unit := do
  let _ ← stream name
  let _ ← (closeStream name : Bench σ ε ρ Unit).attempt
  return ()

/-- Texts in the order of their characters. -/
def inOrder (names : List String) : List String :=
  names.mergeSort fun left right => decide (¬ right < left)

/-- Drop everything: the streams, the payload handles, the contexts and the connections,
each kind in the order of the names. -/
def dropAll : Bench σ ε ρ Unit := do
  (inOrder (← get).streams.keys).forM dropStream
  (inOrder (← get).payloads.keys).forM dropPayload
  (inOrder (← get).contexts.keys).forM dropContext
  (inOrder (← get).connections.keys).forM dropConnection

end Workbench

end RowPayload
