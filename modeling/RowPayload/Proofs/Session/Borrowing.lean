import RowPayload.Proofs.Engine.Within
import RowPayload.Proofs.Sample
import RowPayload.Proofs.Session.AllOrNothing

/-!
# Borrowed sessions compose

A connection that is in a transaction may be lent to one context after another, and each context
may open a stream. Here every course of such sessions is written out move by move, and each move
is told by what it asks of the server. A session that borrows its connection asks for statements
and for work on its payload, and its end asks for no more than to close the payload, whether it
is committed, rolled back, closed, aborted or given up. So the sessions gather in the transaction
of the caller, who commits or rolls back what all of them have done.
-/

namespace RowPayload

open Engine

variable {ε ρ α : Type} {id : Nat}

/-! ## Courses of sessions -/

/-- What a connection is lent to. -/
inductive Loan (ε : Type) where
  | nothing
  | context (context : Context)
  | stream {ρ : Type} (stream : Stream Server ε ρ)

/-- A world, and what a connection in it is lent to. -/
structure Lending (ε : Type) where
  world : World Server ε
  loan : Loan ε

/-- What happens in the course of sessions that borrow a connection. -/
inductive Move (ε : Type) where
  | fault (fault : Fault)
  | lend (descriptor : Descriptor)
  | act {α : Type} (action : Scoped Server ε α)
  | commit
  | rollback
  | giveUp
  | openStream {ρ : Type} (schema : Schema ρ) (options : Options Server ε)
  | call (operation : FileOperation)
  | endStream (ending : Ending)

/-- Only the operations of a context are used on it, in hooks too. -/
def Move.Confined : Move ε → Prop
  | .act action => Context.Confined action
  | .openStream _ options => ∀ hook, options.onClose = some hook → Context.Confined hook
  | .fault _ | .lend _ | .commit | .rollback | .giveUp | .call _ | .endStream _ => True

namespace Lending

/-- Change the server. -/
def onStore (lending : Lending ε) (change : Server → Server) : Lending ε :=
  { lending with world := { lending.world with store := change lending.world.store } }

/-- Act on the context that has the connection, or on that of the stream. -/
def act (lending : Lending ε) (action : Scoped Server ε α) : Lending ε :=
  match lending.loan with
  | .nothing => lending
  | .context context =>
    let scope := (action.perform ⟨lending.world, context⟩).2
    ⟨scope.toWorld, .context scope.context⟩
  | .stream stream =>
    let acted := (stream.act action lending.world).2
    ⟨acted.2, .stream acted.1⟩

/-- Make a move with a connection. A move that the loan does not allow changes nothing. -/
def move (id : Nat) (lending : Lending ε) : Move ε → Lending ε
  | .fault fault => lending.onStore fault.inject
  | .lend descriptor =>
    match lending.loan with
    | .nothing => { lending with loan := .context (.borrowed descriptor id) }
    | .context _ | .stream _ => lending
  | .act action => lending.act action
  | .commit => lending.act (Context.commit : Scoped Server ε Unit)
  | .rollback => lending.act (Context.rollback : Scoped Server ε Unit)
  | .giveUp =>
    match lending.loan with
    | .context context => ⟨(⟨lending.world, context⟩ : Scope Server ε).leave, .nothing⟩
    | .nothing | .stream _ => lending
  | .openStream schema options =>
    match lending.loan with
    | .context context =>
      match (Stream.openOn context schema options).perform lending.world with
      | (.ok stream, world) => ⟨world, .stream stream⟩
      | (.error _, world) => ⟨world, .nothing⟩
    | .nothing | .stream _ => lending
  | .call operation =>
    match lending.loan with
    | .stream stream =>
      lending.onStore fun server => ((operation.perform stream.payload).perform server).2
    | .nothing | .context _ => lending
  | .endStream ending =>
    match lending.loan with
    | .stream stream => ⟨((ending.perform stream).perform lending.world).2, .nothing⟩
    | .nothing | .context _ => lending

/-- Make moves one after another. -/
def run (id : Nat) (lending : Lending ε) (moves : List (Move ε)) : Lending ε :=
  moves.foldl (move id) lending

end Lending

/-! ## What moves ask for -/

/-- Requests that open a payload: statements, the opening, and moving to the end, after which
the payload is given up if that fails. -/
inductive Engine.Request.IsOpening (id : Nat) : Request → Prop where
  | statement {request : Request} (statement : request.IsStatement id) : IsOpening id request
  | openPayload (path : String) (token : Bytes) (access : Access) :
      IsOpening id (.openPayload id path token access)
  | seekEnd (payload : Nat) : IsOpening id (.call payload (.seek (.fromEnd 0)))
  | releasePayload (payload : Nat) : IsOpening id (.releasePayload payload)

/-- Opening a payload takes place within the transaction. -/
theorem Engine.Request.IsOpening.within {request : Request} (opening : request.IsOpening id) :
    request.Within id := by
  cases opening with
  | statement statement => exact .statement statement
  | openPayload path token access => exact .openPayload path token access
  | seekEnd payload => exact .call payload _
  | releasePayload payload => exact .releasePayload payload

namespace Loan

/-- The payload of the stream that has the connection. -/
def payload? : Loan ε → Option Nat
  | .stream opened => some opened.payload
  | .nothing | .context _ => none

/-- The stream that has the connection has no hook. -/
def Unhooked : Loan ε → Prop
  | .stream opened => opened.onClose = none
  | .nothing | .context _ => True

/-- Closing the payload and giving its handle up. -/
def closing (loan : Loan ε) : List Request :=
  match loan.payload? with
  | some payload => [.closePayload payload, .releasePayload payload]
  | none => []

end Loan

/-- The request for a fault. -/
def Fault.request : Fault → Request
  | .beginning => .refuseNextBegin
  | .committing => .refuseNextCommit

/-- What a move asks of the server, in order. Lending the connection, finishing a context and
giving it up ask for nothing, and aborting a stream asks for its payload to be closed. So does
closing it, after which the statements of the hook are asked for. -/
def Lending.Asks (id : Nat) (lending : Lending ε) : Move ε → List Request → Prop
  | .fault fault, asked => asked = [fault.request]
  | .lend _, asked | .commit, asked | .rollback, asked | .giveUp, asked => asked = []
  | .act _, asked => ∀ request ∈ asked, request.IsStatement id
  | .openStream _ _, asked => ∀ request ∈ asked, request.IsOpening id
  | .call operation, asked => asked = lending.loan.payload?.toList.map (.call · operation)
  | .endStream .aborted, asked => asked = lending.loan.closing
  | .endStream .closed, asked | .endStream .dropped, asked =>
    ∃ hooked, asked = lending.loan.closing ++ hooked ∧
      (∀ request ∈ hooked, request.IsStatement id) ∧ (lending.loan.Unhooked → hooked = [])

/-- Closing a payload takes place within the transaction. -/
theorem Loan.within_closing (loan : Loan ε) : ∀ request ∈ loan.closing, request.Within id := by
  unfold closing
  cases loan.payload? with
  | none => simp
  | some payload =>
    intro request member
    rcases List.mem_cons.1 member with rfl | last
    · exact .closePayload payload
    · rw [List.mem_singleton.1 last]
      exact .releasePayload payload

/-- Whatever a move asks for takes place within the transaction. -/
theorem Lending.Asks.within {lending : Lending ε} {move : Move ε} {asked : List Request}
    (asks : lending.Asks id move asked) : ∀ request ∈ asked, request.Within id := by
  cases move with
  | fault fault =>
    obtain rfl : asked = [fault.request] := asks
    intro request member
    rw [List.mem_singleton.1 member]
    cases fault with
    | beginning => exact .refuseNextBegin
    | committing => exact .refuseNextCommit
  | lend | commit | rollback | giveUp =>
    obtain rfl : asked = [] := asks
    simp
  | act action => exact fun request member => .statement (asks request member)
  | openStream schema options => exact fun request member => (asks request member).within
  | call operation =>
    obtain rfl : asked = lending.loan.payload?.toList.map (.call · operation) := asks
    intro request member
    obtain ⟨payload, -, rfl⟩ := List.mem_map.1 member
    exact .call payload operation
  | endStream ending =>
    cases ending with
    | aborted =>
      obtain rfl : asked = lending.loan.closing := asks
      exact lending.loan.within_closing
    | closed | dropped =>
      obtain ⟨hooked, rfl, statements, -⟩ := asks
      intro request member
      rcases List.mem_append.1 member with closing | hook
      · exact lending.loan.within_closing request closing
      · exact .statement (statements request hook)

/-! ## Contexts that borrow their connection -/

/-- A context that borrows a connection, of which it has asked allowed requests since `base`. -/
structure Scope.Lent (allowed : Request → Prop) (base : Server) (id : Nat)
    (scope : Scope Server ε) : Prop extends scope.context.LentOn id where
  served : base.ServesOnly allowed scope.store

variable {allowed : Request → Prop} {base : Server} {scope : Scope Server ε}

/-- A request more. -/
theorem Scope.Lent.tail (lent : scope.Lent allowed base id) {request : Request}
    (permitted : allowed request) :
    ({ scope with store := request.serve scope.store } : Scope Server ε).Lent allowed base id :=
  ⟨lent.toLentOn, lent.served.tail permitted⟩

namespace Context

/-- Work with a borrowed connection that is an allowed request. -/
theorem keepsLent_onConnection {work : Nat → Work Error Server α} {request : Request}
    (permitted : allowed request)
    (serves : ∀ server, ((work id).perform server).2 = request.serve server) :
    Work.Keeps (Scope.Lent allowed base id) (onConnection work : Scoped Server ε α) := by
  intro scope lent
  by_cases active : scope.context.state = .active
  · rw [perform_onConnection work active, lent.connection, serves]
    exact lent.tail permitted
  · rw [perform_onConnection_finished work active]
    exact lent

/-- Finishing a context asks for nothing. -/
theorem keepsLent_finish (state : ContextState) (step : Nat → Work Error Server Unit) :
    Work.Keeps (Scope.Lent allowed base id) (finish state step : Scoped Server ε Unit) := by
  intro scope lent
  obtain ⟨world, lentOn⟩ := finish_borrowed lent.borrowed state step
  refine ⟨lent.connection ▸ lentOn, ?_⟩
  rw [world]
  exact lent.served

section

variable (statements : ∀ request : Request, request.IsStatement id → allowed request)
include statements

/-- Executing a statement is a request. -/
theorem keepsLent_execute (command : Command) :
    Work.Keeps (Scope.Lent allowed base id) (execute command : Scoped Server ε Nat) :=
  keepsLent_onConnection (statements _ (.execute command)) fun _ => rfl

/-- A query is a request. -/
theorem keepsLent_query (command : Command) :
    Work.Keeps (Scope.Lent allowed base id) (query command : Scoped Server ε ResultSet) :=
  keepsLent_onConnection (statements _ (.query command)) fun _ => rfl

/-- Actions made of the operations of a context ask for statements. -/
theorem keepsLent_confined {action : Scoped Server ε α} (confined : Confined action) :
    Work.Keeps (Scope.Lent allowed base id) action :=
  confined.keeps (fun _ _ lent => ⟨lent.toLentOn, lent.served⟩) (keepsLent_execute statements)
    (keepsLent_query statements) (keepsLent_finish .committed Backend.commit)
    (keepsLent_finish .rolledBack Backend.rollback)

end

end Context

/-! ## Streams that borrow their connection -/

namespace Stream

open Context

variable {stream : Stream Server ε ρ} {world : World Server ε}

/-- Preparing a session asks for the requests that open a payload. -/
theorem keepsLent_prepare (schema : Schema ρ) (options : Options Server ε) :
    Work.Keeps (Scope.Lent (Request.IsOpening id) base id) (prepare schema options) := by
  have execute (command : Command) : Work.Keeps (Scope.Lent (Request.IsOpening id) base id)
      (Context.execute command : Scoped Server ε Nat) :=
    keepsLent_execute (fun _ => .statement) command
  have query (command : Command) : Work.Keeps (Scope.Lent (Request.IsOpening id) base id)
      (Context.query command : Scoped Server ε ResultSet) :=
    keepsLent_query (fun _ => .statement) command
  refine .bind (keeps_prepareRow ?_ execute options) fun filter =>
    keeps_openRow query ?_ (fun payload => keeps_seekEnd payload ?_ ?_) schema options filter
  · exact fun _ _ lent => ⟨lent.toLentOn, lent.served⟩
  · exact fun path token access =>
      keepsLent_onConnection (.openPayload path token access) fun _ => rfl
  · intro scope lent
    have served := lent.tail (.seekEnd payload)
    simp only [Request.serve, FileOperation.perform, Work.perform_map] at served
    exact served
  · exact fun scope lent => lent.tail (.releasePayload payload)

/-- Opening a stream asks for the requests that open a payload, and no more if it fails: then
what was done remains, and the context is given up. -/
theorem openOn_borrowed {context : Context} (schema : Schema ρ) (options : Options Server ε)
    (world : World Server ε) (lent : context.LentOn id) :
    match (openOn context schema options).perform world with
    | (.error _, after) => world.store.ServesOnly (Request.IsOpening id) after.store
    | (.ok stream, after) => world.store.ServesOnly (Request.IsOpening id) after.store ∧
        stream.context.LentOn id ∧ stream.onClose = options.onClose := by
  have prepared := keepsLent_prepare schema options ⟨world, context⟩ ⟨lent, .refl world.store⟩
  unfold openOn
  rw [Work.perform_ofFunction]
  generalize (prepare schema options).perform ⟨world, context⟩ = answered at prepared ⊢
  obtain ⟨answer, scope⟩ := answered
  have lent : scope.Lent (Request.IsOpening id) world.store id := prepared
  cases answer with
  | ok opened => exact ⟨lent.served, lent.toLentOn, rfl⟩
  | error fault =>
    show world.store.ServesOnly _ ((abandon : Scoped Server ε Unit).perform scope).2.leave.store
    rw [snd_perform_abandon, leave_withdraw_borrowed lent.borrowed]
    exact lent.served

/-- Closing a stream that borrows its connection closes its payload and asks for the statements
of its hook, if it has one. -/
theorem close_lent (world : World Server ε) (lent : stream.context.LentOn id)
    (confined : ∀ hook, stream.onClose = some hook → Confined hook) :
    ∃ hooked : List Request, (∀ request ∈ hooked, request.IsStatement id) ∧
      (stream.onClose = none → hooked = []) ∧
      (stream.close.perform world).2.store =
        hooked.foldl Request.serve (stream.closeHandle world).2.store := by
  have closed : (stream.closeHandle world).2.Lent (Request.IsStatement id)
      (stream.closeHandle world).2.store id := ⟨lent, .refl _⟩
  cases hook : stream.onClose with
  | none =>
    refine ⟨[], by simp, fun _ => rfl, ?_⟩
    exact close_borrowed world hook lent.borrowed
  | some action =>
    have hooked : (stream.closeHook world).2.Lent (Request.IsStatement id)
        (stream.closeHandle world).2.store id := by
      unfold closeHook
      rw [hook]
      exact keepsLent_confined (fun _ statement => statement) (confined action hook) _ closed
    have settled : (stream.closeCommit world).2.Lent (Request.IsStatement id)
        (stream.closeHandle world).2.store id := by
      unfold closeCommit
      rw [perform_settle]
      split
      · exact keepsLent_finish .committed Backend.commit _ hooked
      · exact hooked
    obtain ⟨asked, statements, served⟩ := settled.served
    refine ⟨asked, statements, by simp, ?_⟩
    rw [perform_close, Scope.leave_borrowed settled.borrowed]
    exact served

end Stream

/-! ## Moves -/

/-- Whatever has the connection borrows it, and hooks use the operations of a context. -/
def Loan.LentOn (id : Nat) : Loan ε → Prop
  | .nothing => True
  | .context holder => holder.LentOn id
  | .stream opened => opened.context.LentOn id ∧
      ∀ hook, opened.onClose = some hook → Context.Confined hook

namespace Lending

variable {lending : Lending ε}

/-- Actions made of the operations of a context ask for statements, whoever has it. -/
theorem act_confined (lent : lending.loan.LentOn id) {action : Scoped Server ε α}
    (confined : Context.Confined action) :
    (lending.act action).loan.LentOn id ∧
      lending.world.store.ServesOnly (Request.IsStatement id)
        (lending.act action).world.store := by
  obtain ⟨world, loan⟩ := lending
  cases loan with
  | nothing => exact ⟨lent, .refl _⟩
  | context context =>
    have acted := Context.keepsLent_confined (fun _ statement => statement) confined ⟨world, context⟩
      ⟨lent, .refl world.store⟩
    exact ⟨acted.toLentOn, acted.served⟩
  | stream stream =>
    have acted := Context.keepsLent_confined (fun _ statement => statement) confined ⟨world, stream.context⟩
      ⟨lent.1, .refl world.store⟩
    exact ⟨⟨acted.toLentOn, lent.2⟩, acted.served⟩

/-- Finishing a context asks for nothing, whoever has it. -/
theorem act_finish (lent : lending.loan.LentOn id) (state : ContextState)
    (step : Nat → Work Error Server Unit) :
    (lending.act (Context.finish state step : Scoped Server ε Unit)).loan.LentOn id ∧
      (lending.act (Context.finish state step : Scoped Server ε Unit)).world = lending.world := by
  obtain ⟨world, loan⟩ := lending
  cases loan with
  | nothing => exact ⟨lent, rfl⟩
  | context context =>
    have held : (⟨world, context⟩ : Scope Server ε).context.LentOn id := lent
    obtain ⟨kept, lentOn⟩ := Context.finish_borrowed held.borrowed state step
    exact ⟨held.connection ▸ lentOn, kept⟩
  | stream stream =>
    have held : (⟨world, stream.context⟩ : Scope Server ε).context.LentOn id := lent.1
    obtain ⟨kept, lentOn⟩ := Context.finish_borrowed held.borrowed state step
    exact ⟨⟨held.connection ▸ lentOn, lent.2⟩, kept⟩

/-- Opening a stream asks for the requests that open a payload. -/
theorem openStream_asks {context : Context} (schema : Schema ρ) (options : Options Server ε)
    (world : World Server ε) (lent : context.LentOn id)
    (confined : ∀ hook, options.onClose = some hook → Context.Confined hook) :
    (move id ⟨world, .context context⟩ (.openStream schema options)).loan.LentOn id ∧
      world.store.ServesOnly (Request.IsOpening id)
        (move id ⟨world, .context context⟩ (.openStream schema options)).world.store := by
  have opens := Stream.openOn_borrowed schema options world lent
  simp only [move]
  generalize (Stream.openOn context schema options).perform world = opened at opens ⊢
  obtain ⟨answer, after⟩ := opened
  cases answer with
  | error fault => exact ⟨trivial, opens⟩
  | ok stream =>
    obtain ⟨served, lentOn, hooks⟩ := opens
    exact ⟨⟨lentOn, hooks ▸ confined⟩, served⟩

/-- The end of a stream asks for its payload to be closed, and for the statements of its hook
unless it is aborted. -/
theorem endStream_asks {stream : Stream Server ε ρ} (world : World Server ε)
    (lent : stream.context.LentOn id)
    (confined : ∀ hook, stream.onClose = some hook → Context.Confined hook) (ending : Ending) :
    ∃ asked, (⟨world, .stream stream⟩ : Lending ε).Asks id (.endStream ending) asked ∧
      ((ending.perform stream).perform world).2.store =
        asked.foldl Request.serve world.store := by
  have closed : ∃ asked, (⟨world, .stream stream⟩ : Lending ε).Asks id (.endStream .closed) asked ∧
      (stream.close.perform world).2.store = asked.foldl Request.serve world.store := by
    obtain ⟨hooked, statements, unhooked, served⟩ := Stream.close_lent world lent confined
    refine ⟨_, ⟨hooked, rfl, statements, unhooked⟩, ?_⟩
    rw [List.foldl_append]
    exact served
  cases ending with
  | closed => exact closed
  | dropped => exact closed
  | aborted => exact ⟨_, rfl, Stream.abort_borrowed world lent.borrowed⟩

/-- **A move asks for what it may ask for**, and the connection stays with one that borrows it. -/
theorem move_asks (lent : lending.loan.LentOn id) (move : Move ε) (confined : move.Confined) :
    (lending.move id move).loan.LentOn id ∧ ∃ asked, lending.Asks id move asked ∧
      (lending.move id move).world.store = asked.foldl Request.serve lending.world.store := by
  cases move with
  | fault fault =>
    refine ⟨lent, [fault.request], rfl, ?_⟩
    cases fault <;> rfl
  | lend descriptor =>
    obtain ⟨world, loan⟩ := lending
    cases loan with
    | nothing => exact ⟨⟨rfl, rfl⟩, [], rfl, rfl⟩
    | context | stream => exact ⟨lent, [], rfl, rfl⟩
  | act action =>
    obtain ⟨kept, asked, statements, served⟩ := act_confined lent confined
    exact ⟨kept, asked, statements, served⟩
  | commit =>
    obtain ⟨kept, same⟩ := act_finish lent .committed Backend.commit
    exact ⟨kept, [], rfl, congrArg World.store same⟩
  | rollback =>
    obtain ⟨kept, same⟩ := act_finish lent .rolledBack Backend.rollback
    exact ⟨kept, [], rfl, congrArg World.store same⟩
  | giveUp =>
    obtain ⟨world, loan⟩ := lending
    cases loan with
    | nothing | stream => exact ⟨lent, [], rfl, rfl⟩
    | context context =>
      have held : (⟨world, context⟩ : Scope Server ε).context.LentOn id := lent
      exact ⟨trivial, [], rfl, congrArg World.store (Scope.leave_borrowed held.borrowed)⟩
  | openStream schema options =>
    obtain ⟨world, loan⟩ := lending
    cases loan with
    | nothing | stream => exact ⟨lent, [], by simp [Asks], rfl⟩
    | context context =>
      obtain ⟨kept, asked, openings, served⟩ := openStream_asks schema options world lent confined
      exact ⟨kept, asked, openings, served⟩
  | call operation =>
    obtain ⟨world, loan⟩ := lending
    cases loan with
    | nothing | context => exact ⟨lent, [], rfl, rfl⟩
    | stream stream => exact ⟨lent, _, rfl, rfl⟩
  | endStream ending =>
    obtain ⟨world, loan⟩ := lending
    cases loan with
    | stream stream => exact ⟨trivial, endStream_asks world lent.1 lent.2 ending⟩
    | nothing | context =>
      refine ⟨lent, [], ?_, rfl⟩
      cases ending with
      | aborted => rfl
      | closed | dropped => exact ⟨[], rfl, by simp, fun _ => rfl⟩

/-- In the course of moves the connection stays with one that borrows it. -/
theorem lentOn_run (lent : lending.loan.LentOn id) {moves : List (Move ε)}
    (confined : ∀ move ∈ moves, move.Confined) : (lending.run id moves).loan.LentOn id := by
  induction moves generalizing lending with
  | nil => exact lent
  | cons first rest inductionHypothesis =>
    have step := (move_asks lent first (confined first List.mem_cons_self)).1
    exact inductionHypothesis step fun move member => confined move (List.mem_cons_of_mem _ member)

/-- **Moves ask one after another.** What each of them asks for can be listed, and the server
after any number of them is the one that the requests listed until then lead to. -/
theorem run_asks (lent : lending.loan.LentOn id) {moves : List (Move ε)}
    (confined : ∀ move ∈ moves, move.Confined) :
    ∃ asked : Nat → List Request, ∀ count,
      (∀ move, moves[count]? = some move →
        (lending.run id (moves.take count)).Asks id move (asked count)) ∧
      (count ≤ moves.length → (lending.run id (moves.take count)).world.store =
        ((List.range count).flatMap asked).foldl Request.serve lending.world.store) := by
  have steps (count : Nat) : ∃ asked : List Request, ∀ move, moves[count]? = some move →
      (lending.run id (moves.take count)).Asks id move asked ∧
      (lending.run id (moves.take (count + 1))).world.store =
        asked.foldl Request.serve (lending.run id (moves.take count)).world.store := by
    cases found : moves[count]? with
    | none => exact ⟨[], by simp⟩
    | some move =>
      have allowed := confined move (List.mem_of_getElem? found)
      have kept : (lending.run id (moves.take count)).loan.LentOn id :=
        lentOn_run lent fun move member => confined move (List.mem_of_mem_take member)
      obtain ⟨-, asked, asks, served⟩ := move_asks kept move allowed
      refine ⟨asked, ?_⟩
      rintro _ ⟨⟩
      refine ⟨asks, ?_⟩
      rw [← served, List.take_add_one, found, run, List.foldl_append]
      rfl
  -- A move is told by those before it, so what each one asks for can be chosen once.
  obtain ⟨asked, steps⟩ := Classical.skolem.1 steps
  refine ⟨asked, fun count => ⟨fun move found => (steps count move found).1, ?_⟩⟩
  induction count with
  | zero => exact fun _ => rfl
  | succ count inductionHypothesis =>
    intro inside
    have found : moves[count]? = some moves[count] := List.getElem?_eq_getElem inside
    rw [(steps count _ found).2, inductionHypothesis (Nat.le_of_succ_le inside), List.range_succ,
      List.flatMap_append, List.foldl_append, List.flatMap_singleton]

end Lending

/-- **Borrowed sessions compose inside the transaction of the caller.** Let a connection be in a
transaction, and let it be lent to contexts and streams in any course of moves. Then each move
asks for no more than it may: the end of a context asks for nothing, and that of a stream for its
payload to be closed. And at any time all that the moves have asked for is pending in the
working copies of the transaction: it goes on as the same one, the next session sees the working
copies as the last one has left them, nothing is committed, and it is for the caller to roll back
or to commit what all of them have done. -/
theorem borrowed_sessions_compose (base : Server) {transaction : Transaction}
    (held : base.connection id = .inTransaction transaction) (surroundings : ε)
    (moves : List (Move ε)) (confined : ∀ move ∈ moves, move.Confined) :
    ∃ asked : Nat → List Request, ∀ count ≤ moves.length,
      let lending := Lending.run id ⟨⟨base, surroundings⟩, .nothing⟩ (moves.take count)
      let watched := (Watched.ofServer base).serve ((List.range count).flatMap asked)
      watched.server = lending.world.store ∧
      (∀ move, moves[count]? = some move → lending.Asks id move (asked count)) ∧
      ∃ draft, watched.ledger id = some draft ∧
        draft.Pending base id transaction watched.server := by
  have start : (⟨⟨base, surroundings⟩, .nothing⟩ : Lending ε).loan.LentOn id := trivial
  obtain ⟨asked, asks⟩ := Lending.run_asks start confined
  refine ⟨asked, fun count inside => ?_⟩
  have within : ∀ request ∈ (List.range count).flatMap asked, request.Within id := by
    intro request member
    obtain ⟨earlier, before, member⟩ := List.mem_flatMap.1 member
    have listed : earlier < moves.length := Nat.lt_of_lt_of_le (List.mem_range.1 before) inside
    exact ((asks earlier).1 _ (List.getElem?_eq_getElem listed)).within request member
  refine ⟨?_, (asks count).1, Watched.pending_serve held within⟩
  rw [Watched.server_serve, (asks count).2 inside]
  rfl

namespace Sample

/-- A transaction has begun on the one connection to the archive. -/
def caller : Server := (connected.beginTransaction 0).2

/-- A recording is inserted and its sound written, a context inserts another recording and rolls
back, a stream that has no row to insert fails to open, and more sound is appended by a stream
that is aborted. -/
def visits : List (Move Unit) :=
  [.lend descriptor, .openStream schema ⟨.createNew, .write, seventh, some recording, none⟩,
    .call (.write [1, 2]), .endStream .closed,
    .lend descriptor, .act (Context.execute (insertion 8) : Scoped Server Unit Nat), .rollback,
    .giveUp,
    .lend descriptor, .openStream schema ⟨.createNew, .write, seventh, none, none⟩,
    .lend descriptor, .openStream schema ⟨.append, .write, seventh, none, some Context.rollback⟩,
    .call (.write [3]), .endStream .aborted]

/-- The archive after the sessions, with the transaction of the caller in progress. -/
def visited : Server := (Lending.run 0 ⟨⟨caller, ()⟩, .nothing⟩ visits).world.store

end Sample

/-- The caller of sessions that were closed, rolled back, not opened and aborted commits what all
of them have done, or rolls it back. -/
theorem borrowed_sessions_compose_visits :
    (∀ move ∈ Sample.visits, move.Confined) ∧
      (∃ transaction draft, Sample.caller.connection 0 = .inTransaction transaction ∧
        Draft.Pending draft Sample.caller 0 transaction Sample.visited) ∧
      (Sample.visited.commit 0).1 = .ok () ∧
      (Sample.visited.commit 0).2.rowCount "Recordings" = 2 ∧
      (Sample.visited.commit 0).2.payload? "Recordings" (.int 7) = some [1, 2, 3] ∧
      (Sample.visited.rollback 0).2.rowCount "Recordings" = 0 := by
  have confined : ∀ move ∈ Sample.visits, move.Confined := by
    simp only [Sample.visits, List.forall_mem_cons, List.not_mem_nil, false_imp_iff, implies_true,
      and_true, Move.Confined, true_and]
    refine ⟨?_, .execute (Sample.insertion 8), ?_, ?_⟩
    · rintro _ ⟨⟩
    · rintro _ ⟨⟩
    · rintro _ ⟨⟩
      exact .rollback
  have held : Sample.caller.connection 0 = .inTransaction
      (.start [1, 2, 3] 0 Sample.connected.catalog) := rfl
  obtain ⟨asked, course⟩ := borrowed_sessions_compose Sample.caller held () Sample.visits confined
  obtain ⟨same, -, draft, -, pending⟩ := course Sample.visits.length Nat.le.refl
  rw [same, List.take_length] at pending
  rw [← Sample.visited] at pending
  have outcome : Sample.visited.failNextCommit = false ∧
      (Sample.visited.commit 0).2.rowCount "Recordings" = 2 ∧
      (Sample.visited.commit 0).2.payload? "Recordings" (.int 7) = some [1, 2, 3] ∧
      (Sample.visited.rollback 0).2.rowCount "Recordings" = 0 := by
    decide +kernel
  obtain ⟨later, laterHeld, -⟩ := pending.inTransaction
  have committed : (Sample.visited.commit 0).1 = .ok () := by
    rw [Server.commit_eq_of_allowed laterHeld outcome.1]
  exact ⟨confined, ⟨_, draft, held, pending⟩, committed, outcome.2⟩

end RowPayload
