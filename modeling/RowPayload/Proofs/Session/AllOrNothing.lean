import RowPayload.Proofs.Sample
import RowPayload.Proofs.Session.Opening
import RowPayload.Proofs.Session.Closing

/-!
# Owned sessions are all or nothing

A session that owns its connection either does not begin and leaves nothing open, or
ends with its connection closed and its transaction counted once, as committed or as
rolled back, on every way out of it. The committed tables change only if the
transaction was committed.
-/

namespace RowPayload

open Engine

variable {ε ρ α : Type} {base : Server} {id : Nat}

namespace Engine.Server

/-- A session that did not begin: no transaction was begun, the tables are as before,
and every connection that is open was open before in the same state. -/
structure Unopened (before after : Server) : Prop where
  catalog : after.catalog = before.catalog
  account : after.counters.account = before.counters.account ∨
    after.counters.account = before.counters.account.withOpened.withClosed
  connections : ∀ id, after.connection id ≠ .closed →
    after.connection id = before.connection id

/-- A connection was opened since `base` and nothing done with it. -/
structure Opened (base : Server) (id : Nat) (server : Server) : Prop where
  ready : server.connection id = .ready
  others : ∀ other, other ≠ id → server.connection other = base.connection other
  catalog : server.catalog = base.catalog
  account : server.counters.account = base.counters.account.withOpened

/-- A session is over: its connection is closed, and its transaction was counted once,
as committed or as rolled back. -/
def Ended (base : Server) (id : Nat) (server : Server) : Prop :=
  Committed base id server ∨ RolledBack base id server

end Engine.Server

namespace Context

/-- Connecting opens a connection or changes nothing. -/
theorem leads_connect (base : Server) (settings : String) :
    Work.Leads (· = base) (Backend.connect settings : Work Error Server Nat)
      fun
        | .error _, after => after = base
        | .ok id, after => Server.Opened base id after := by
  rintro server rfl
  show match (server.connect settings).1, (server.connect settings).2 with
    | .error _, after => after = server
    | .ok id, after => Server.Opened server id after
  unfold Server.connect
  cases Settings.parse settings with
  | error fault => rfl
  | ok _ =>
    refine ⟨?_, fun other different => ?_, rfl, rfl⟩
    · have opened := Server.connection_add server server.connections.next
      rwa [if_pos rfl] at opened
    · have kept := Server.connection_add server other
      have distinct : other ≠ server.connections.next := different
      rwa [if_neg distinct] at kept

/-- A transaction that begins makes the session begin, and one that is refused leaves
the connection open. -/
theorem begin_opened {base server : Server} {id : Nat} (opened : Server.Opened base id server) :
    (∃ after, server.beginTransaction id = (.ok (), after) ∧ Server.Begun base id after) ∨
      ∃ failure after, server.beginTransaction id = (.error failure, after) ∧
        Server.Opened base id after := by
  unfold Server.beginTransaction
  rw [opened.ready]
  by_cases refused : server.failNextBegin = true
  · right
    simp only [refused, if_true]
    exact ⟨_, _, rfl, opened.ready, opened.others, opened.catalog, opened.account⟩
  · left
    have alive : server.connection id ≠ .closed := by simp [opened.ready]
    simp only [refused]
    refine ⟨_, rfl, ⟨.start server.secret server.transactions server.catalog, ?_, ?_⟩, ?_, ?_⟩
    · show (server.setConnection id _).connection id = _
      rw [Server.connection_setConnection alive, if_pos rfl]
    · exact opened.catalog
    · exact opened.catalog
    · show server.counters.account.withBegin = _
      rw [opened.account]

/-- Closing and releasing a connection on which nothing was done leaves nothing open. -/
theorem unopened_of_opened {base server : Server} {id : Nat}
    (opened : Server.Opened base id server) :
    base.Unopened ((server.close id).release id) where
  catalog := by
    rw [← opened.catalog]
    exact (Server.close_ready opened.ready).2.1
  account := by
    right
    rw [← opened.account]
    exact (Server.close_ready opened.ready).2.2
  connections := by
    intro other alive
    rw [Server.connection_release] at alive ⊢
    by_cases same : other = id
    · simp [same] at alive
    · have ready : server.connection id ≠ .closed := by simp [opened.ready]
      rw [if_neg same, ← opened.others other same]
      simp only [Server.close, opened.ready, Server.connection_count]
      rw [Server.connection_setConnection ready, if_neg same]

/-- An owned context comes with its transaction in progress, or not at all and with
nothing left open. -/
theorem leads_owned? (base : Server) (descriptor : Descriptor) (settings : String) :
    Work.Leads (· = base) (owned? descriptor settings)
      fun
        | .error _, after => base.Unopened after
        | .ok context, after => context.state = .active ∧ context.owned = true ∧
            context.descriptor = descriptor ∧ Server.Begun base context.connection after := by
  refine .bind (leads_connect base settings) ?_ fun id server opened => ?_
  · rintro _ server rfl
    exact ⟨rfl, .inl rfl, fun _ _ => rfl⟩
  · have begins : (Backend.beginTransaction id : Work Error Server Unit).perform server =
        ((server.beginTransaction id).1.mapError Error.ofEngine,
          (server.beginTransaction id).2) := rfl
    rw [Work.perform_bind, Work.perform_attempt, begins]
    rcases begin_opened opened with ⟨after, began, begun⟩ | ⟨failure, after, failed, still⟩
    · rw [began]
      exact ⟨rfl, rfl, rfl, begun⟩
    · rw [failed]
      exact unopened_of_opened still

/-- Executing a statement does not leave the transaction. -/
theorem keepsLive_execute (command : Command) :
    Work.Keeps (Scope.Live base id) (execute command : Scoped Server ε Nat) :=
  keepsLive_onConnection fun _ _ held => Server.inside_execute held command

/-- A query does not leave the transaction. -/
theorem keepsLive_query (command : Command) :
    Work.Keeps (Scope.Live base id) (query command : Scoped Server ε ResultSet) :=
  keepsLive_onConnection fun _ _ held => Server.inside_query held command

end Context

namespace Stream

open Context

/-- Preparing the row does not leave the transaction. -/
theorem keepsLive_prepareRow (options : Options Server ε) :
    Work.Keeps (Scope.Live base id) (prepareRow options) :=
  keeps_prepareRow (fun _ _ live => ⟨live.owned, live.connection, live.active, live.begun⟩)
    keepsLive_execute options

/-- Moving to the end of the payload does not leave the transaction. -/
theorem keepsLive_seekEnd (payload : Nat) :
    Work.Keeps (Scope.Live base id) (seekEnd payload : Scoped Server ε Unit) :=
  keeps_seekEnd payload
    (fun scope live => live.inside (Server.inside_onHandle id scope.store payload _))
    fun scope live => live.inside (Server.inside_releasePayload id scope.store payload)

/-- Opening the payload does not leave the transaction. -/
theorem keepsLive_openRow (schema : Schema ρ) (options : Options Server ε) (filter : Clause) :
    Work.Keeps (Scope.Live base id) (openRow schema options filter) :=
  keeps_openRow keepsLive_query
    (fun path token access => keepsLive_onConnection fun server _ _ =>
      Server.inside_openPayload id server id path token access)
    keepsLive_seekEnd schema options filter

/-- Preparing a session does not leave its transaction. -/
theorem keepsLive_prepare (schema : Schema ρ) (options : Options Server ε) :
    Work.Keeps (Scope.Live base id) (prepare schema options) :=
  .bind (keepsLive_prepareRow options) fun filter => keepsLive_openRow schema options filter

end Stream

/-! ## Finishing -/

namespace Scope

variable {scope : Scope Server ε}

/-- Rolling back a live context ends its session rolled back. -/
theorem Live.rollback (live : scope.Live base id) :
    ((Context.rollback : Scoped Server ε Unit).perform scope).1 = .ok () ∧
      ((Context.rollback : Scoped Server ε Unit).perform scope).2.Standing base id ∧
      ((Context.rollback : Scoped Server ε Unit).perform scope).2.context.state = .rolledBack := by
  obtain ⟨answer, rolledBack⟩ := live.begun.rollback
  rw [Context.rollback, Context.perform_finish .rolledBack Backend.rollback live.holding]
  refine ⟨?_, ⟨live.owned, live.connection, rolledBack⟩, rfl⟩
  show (scope.store.rollback id).1.mapError Error.ofEngine = _
  rw [answer]
  rfl

/-- Committing a live context ends its session, committed or, if the commit was refused,
rolled back. -/
theorem Live.commit (live : scope.Live base id) :
    ((Context.commit : Scoped Server ε Unit).perform scope).2.Standing base id ∧
      ((Context.commit : Scoped Server ε Unit).perform scope).2.context.state = .committed ∧
      match ((Context.commit : Scoped Server ε Unit).perform scope) with
      | (.error _, after) => Server.RolledBack base id after.store
      | (.ok _, after) => Server.Committed base id after.store := by
  rw [Context.commit, Context.perform_finish .committed Backend.commit live.holding,
    Server.perform_commit]
  by_cases refused : scope.store.failNextCommit = true
  · obtain ⟨answer, rolledBack⟩ := live.begun.commit_refused refused
    rw [answer]
    exact ⟨⟨live.owned, live.connection, .inr rolledBack⟩, rfl, rolledBack⟩
  · have allowed : scope.store.failNextCommit = false := by simpa using refused
    obtain ⟨answer, committed⟩ := live.begun.commit allowed
    rw [answer]
    exact ⟨⟨live.owned, live.connection, .inl committed⟩, rfl, committed⟩

/-- The context's own operations keep it standing, and so do actions made of them. -/
theorem keepsStanding_confined {action : Scoped Server ε α} (confined : Context.Confined action) :
    Work.Keeps (Scope.Standing base id) action := by
  refine confined.keeps (fun _ _ standing => ⟨standing.owned, standing.connection, standing.state⟩)
    ?_ ?_ ?_ ?_
  · intro command
    exact Context.keepsStanding_onConnection fun _ _ held => Server.inside_execute held command
  · intro command
    exact Context.keepsStanding_onConnection fun _ _ held => Server.inside_query held command
  · intro scope standing
    by_cases active : scope.context.state = .active
    · exact (standing.live active).commit.1
    · rw [Context.commit, Context.perform_finish_finished .committed Backend.commit active]
      exact standing
  · intro scope standing
    by_cases active : scope.context.state = .active
    · exact (standing.live active).rollback.2.1
    · rw [Context.rollback, Context.perform_finish_finished .rolledBack Backend.rollback active]
      exact standing

/-- Leaving a context whose transaction is in progress rolls it back. -/
theorem Live.rolledBack_leave (live : scope.Live base id) :
    Server.RolledBack base id scope.leave.store := by
  have active : scope.context.isActive = true := by
    simp [Context.isActive, live.active]
  have left : scope.leave.store = ((scope.store.rollback id).2.close id).release id := by
    simp only [leave, Context.release, live.owned, active, live.connection, if_true]
    rfl
  rw [left]
  exact live.begun.rollback.2.release

/-- Leaving a finished context ends the session. -/
theorem Standing.ended_leave (standing : scope.Standing base id)
    (finished : scope.context.state ≠ .active) : Server.Ended base id scope.leave.store := by
  rw [leave_finished standing.owned standing.connection finished]
  have ending := standing.state
  cases state : scope.context.state with
  | active => exact absurd state finished
  | committed =>
    rw [state] at ending
    exact ending.imp .release .release
  | rolledBack =>
    rw [state] at ending
    exact .inr ending.release

end Scope

namespace Stream

open Context

/-! ## Closing -/

variable {stream : Stream Server ε ρ} {world : World Server ε}

/-- Closing the handle keeps a live session live. -/
theorem live_closeHandle (live : (⟨world, stream.context⟩ : Scope Server ε).Live base id) :
    (stream.closeHandle world).2.Live base id :=
  live.inside ((Server.inside_closePayload id world.store stream.payload).trans
    (Server.inside_releasePayload id _ stream.payload))

/-- A confined hook leaves a session standing. -/
theorem standing_closeHook (live : (⟨world, stream.context⟩ : Scope Server ε).Live base id)
    (confined : ∀ hook, stream.onClose = some hook → Confined hook) :
    (stream.closeHook world).2.Standing base id := by
  have standing := (live_closeHandle live).standing
  unfold closeHook
  cases hooked : stream.onClose with
  | none => exact standing
  | some hook => exact Scope.keepsStanding_confined (confined hook hooked) _ standing

/-- After the commit step a session is over. -/
theorem finished_closeCommit (standing : (stream.closeHook world).2.Standing base id) :
    (stream.closeCommit world).2.Standing base id ∧
      (stream.closeCommit world).2.context.state ≠ .active := by
  unfold closeCommit
  rw [perform_settle]
  by_cases active : (stream.closeHook world).2.context.state = .active
  · rw [if_pos active]
    obtain ⟨after, state, -⟩ := (standing.live active).commit
    exact ⟨after, by simp [state]⟩
  · rw [if_neg active]
    exact ⟨standing, active⟩

/-- Whatever the hook did, a closed stream has ended its session. -/
theorem ended_close (standing : (stream.closeHook world).2.Standing base id) :
    Server.Ended base id (stream.close.perform world).2.store := by
  obtain ⟨after, finished⟩ := finished_closeCommit standing
  rw [perform_close]
  exact after.ended_leave finished

/-- A close whose commit was refused has rolled the session back. -/
theorem rolledBack_close {fault : Error}
    (standing : (stream.closeHook world).2.Standing base id)
    (refused : (stream.closing world).commit = .error fault) :
    Server.RolledBack base id (stream.close.perform world).2.store := by
  have failed : ((settle : Scoped Server ε Unit).perform (stream.closeHook world).2).1 =
      .error fault := refused
  rw [perform_close]
  show Server.RolledBack base id (stream.closeCommit world).2.leave.store
  unfold closeCommit
  rw [perform_settle] at failed ⊢
  by_cases active : (stream.closeHook world).2.context.state = .active
  · rw [if_pos active] at failed ⊢
    obtain ⟨after, state, ending⟩ := (standing.live active).commit
    rw [Scope.leave_finished after.owned after.connection (by simp [state])]
    generalize (Context.commit : Scoped Server ε Unit).perform (stream.closeHook world).2 =
      committed at failed ending ⊢
    obtain ⟨answer, scope⟩ := committed
    obtain rfl : answer = .error fault := failed
    exact Server.RolledBack.release ending
  · rw [if_neg active] at failed
    cases failed

/-- Without a hook, a close whose commit was not refused has published the transaction as
it was after its handle was closed. -/
theorem committed_close (live : (⟨world, stream.context⟩ : Scope Server ε).Live base id)
    (unhooked : stream.onClose = none) (allowed : (stream.closing world).commit = .ok ()) :
    Server.Committed base id (stream.close.perform world).2.store ∧
      ∃ transaction, (stream.closeHandle world).2.store.connection id =
          .inTransaction transaction ∧
        ∀ name, (stream.close.perform world).2.store.catalog.get? name =
          transaction.table? name := by
  have closed := live_closeHandle live
  obtain ⟨committed, left⟩ := close_unhooked world unhooked
  have succeeded := allowed
  rw [committed, perform_settle, if_pos closed.active] at succeeded
  obtain ⟨after, state, ending⟩ := closed.commit
  obtain ⟨transaction, held, origin⟩ := closed.begun.transaction
  refine ⟨?_, transaction, held, fun name => ?_⟩
  · rw [left, perform_settle, if_pos closed.active,
      Scope.leave_finished after.owned after.connection (by simp [state])]
    generalize (Context.commit : Scoped Server ε Unit).perform (stream.closeHandle world).2 =
      committed at succeeded ending ⊢
    obtain ⟨answer, scope⟩ := committed
    obtain rfl : answer = .ok () := succeeded
    exact Server.Committed.release ending
  · rw [catalog_close live.holding unhooked allowed held, closed.begun.catalog, ← origin,
      Transaction.table?]

/-- An aborted stream has rolled its session back. -/
theorem rolledBack_abort (live : (⟨world, stream.context⟩ : Scope Server ε).Live base id) :
    Server.RolledBack base id (stream.abort.perform world).2.store := by
  have closed := live_closeHandle live
  obtain ⟨-, rolledBack⟩ := closed.begun.rollback
  rw [snd_perform_abort, perform_withdraw, if_pos closed.active, Context.rollback,
    Scope.leave_finish (by simp) Backend.rollback closed.holding]
  exact rolledBack.release

/-! ## Opening and working -/

/-- A stream that did not open has rolled its session back, and one that did is left with
its transaction in progress. -/
theorem openOn_begun {context : Context} (schema : Schema ρ) (options : Options Server ε)
    (live : (⟨world, context⟩ : Scope Server ε).Live base id) :
    match (openOn context schema options).perform world with
    | (.error _, after) => Server.RolledBack base id after.store
    | (.ok stream, after) => stream.onClose = options.onClose ∧
        (⟨after, stream.context⟩ : Scope Server ε).Live base id := by
  have kept := keepsLive_prepare schema options ⟨world, context⟩ live
  unfold openOn
  rw [Work.perform_ofFunction]
  generalize (prepare schema options).perform ⟨world, context⟩ = prepared at kept ⊢
  obtain ⟨answer, scope⟩ := prepared
  cases answer with
  | ok opened => exact ⟨rfl, kept⟩
  | error fault =>
    have live : scope.Live base id := kept
    obtain ⟨-, rolledBack⟩ := live.begun.rollback
    show Server.RolledBack base id ((abandon : Scoped Server ε Unit).perform scope).2.leave.store
    rw [snd_perform_abandon, perform_withdraw, if_pos live.active, Context.rollback,
      Scope.leave_finish (by simp) Backend.rollback live.holding]
    exact rolledBack.release

end Stream

/-- A fault that a test asks a server for. -/
inductive Fault where
  | beginning
  | committing

/-- Ask a server for a fault. -/
def Fault.inject (server : Server) : Fault → Server
  | .beginning => server.refuseNextBegin
  | .committing => server.refuseNextCommit

/-- What goes on between the opening and the end of a stream: calls on its payload, and
faults that are asked for. -/
inductive Interlude where
  | call (operation : FileOperation)
  | fault (fault : Fault)

namespace Interlude

/-- The server after an interlude of a stream with a payload. -/
def after (payload : Nat) (server : Server) : Interlude → Server
  | .call operation => ((operation.perform payload).perform server).2
  | .fault asked => asked.inject server

/-- The server after interludes. -/
def afterAll (payload : Nat) (server : Server) (interludes : List Interlude) : Server :=
  interludes.foldl (after payload) server

end Interlude

/-- The ways in which a stream can end. -/
inductive Ending where
  | closed
  | aborted
  | dropped

/-- End a stream. A stream that is dropped is closed, whatever that reports. -/
def Ending.perform (stream : Stream Server ε ρ) : Ending → Work Error (World Server ε) Unit
  | .closed => stream.close
  | .aborted => stream.abort
  | .dropped => do
    let _ ← (stream.close.attempt : Work Error (World Server ε) (Except Error Unit))

namespace Engine.Server

/-- Asking for a fault is a step inside every transaction. -/
theorem inside_inject (id : Nat) (server : Server) (fault : Fault) :
    Inside id server (fault.inject server) := by
  cases fault <;> exact .of_eq rfl rfl rfl

/-- Asking for faults stays inside every transaction. -/
theorem inside_faults (id : Nat) (faults : List Fault) (server : Server) :
    Inside id server (faults.foldl Fault.inject server) := by
  induction faults generalizing server with
  | nil => exact .refl id server
  | cons first rest inductionHypothesis =>
    exact (inside_inject id server first).trans (inductionHypothesis (first.inject server))

/-- Interludes stay inside every transaction. -/
theorem inside_interludes (id payload : Nat) (interludes : List Interlude) (server : Server) :
    Inside id server (Interlude.afterAll payload server interludes) := by
  induction interludes generalizing server with
  | nil => exact .refl id server
  | cons first rest inductionHypothesis =>
    refine .trans ?_ (inductionHypothesis (first.after payload server))
    cases first with
    | call operation => exact inside_fileOperation id payload operation server
    | fault asked => exact inside_inject id server asked

end Engine.Server

/-- How the session of a stream ends that owns its connection: all or nothing. -/
structure Stream.AllOrNothing (base : Server) (id : Nat) (stream : Stream Server ε ρ)
    (world : World Server ε) : Prop where
  /-- Whatever its end, the connection is closed and the transaction is counted once. -/
  ended : ∀ ending : Ending, Server.Ended base id ((ending.perform stream).perform world).2.store
  /-- Without a commit that was counted, nothing is published. -/
  unpublished : ∀ ending : Ending,
    ((ending.perform stream).perform world).2.store.counters.commits = base.counters.commits →
    ((ending.perform stream).perform world).2.store.catalog = base.catalog
  /-- Aborting rolls back. -/
  aborted : Server.RolledBack base id (stream.abort.perform world).2.store
  /-- A commit that fails rolls back. -/
  refused : ∀ fault, (stream.closing world).commit = .error fault →
    Server.RolledBack base id (stream.close.perform world).2.store
  /-- A commit that succeeds, with no hook before it, publishes the tables as the
  transaction saw them after the handle was written back. -/
  published : stream.onClose = none → (stream.closing world).commit = .ok () →
    Server.Committed base id (stream.close.perform world).2.store ∧
      ∃ transaction, (stream.closeHandle world).2.store.connection id =
          .inTransaction transaction ∧
        ∀ name, (stream.close.perform world).2.store.catalog.get? name = transaction.table? name
  /-- Closing reports the failure to commit, or else that of the hook, or else that of
  closing the handle. -/
  reported : (stream.close.perform world).1 = (stream.closing world).verdict

/-- A stream whose session owns its connection, with the transaction in progress and a
hook made of the context's own operations, ends all or nothing. -/
theorem Stream.allOrNothing_of_live {stream : Stream Server ε ρ} {world : World Server ε}
    (live : (⟨world, stream.context⟩ : Scope Server ε).Live base id)
    (confined : ∀ hook, stream.onClose = some hook → Context.Confined hook) :
    stream.AllOrNothing base id world := by
  have standing := standing_closeHook live confined
  have ended : ∀ ending : Ending,
      Server.Ended base id ((ending.perform stream).perform world).2.store := by
    intro ending
    cases ending with
    | closed => exact ended_close standing
    | aborted => exact .inr (rolledBack_abort live)
    | dropped => exact ended_close standing
  constructor
  case ended => exact ended
  case unpublished =>
    intro ending uncommitted
    rcases ended ending with committed | rolledBack
    · have counted := congrArg Account.commits committed.account
      have more : ((ending.perform stream).perform world).2.store.counters.commits =
          base.counters.commits + 1 := counted
      omega
    · exact rolledBack.catalog
  case aborted => exact rolledBack_abort live
  case refused =>
    intro fault refused
    exact rolledBack_close standing refused
  case published => exact committed_close live
  case reported => rw [perform_close]

/-- **Owned sessions are all or nothing.** From any server, with any descriptor, options
and hook made of the context's own operations, and with faults asked for at any time:
the context is refused and leaves nothing open, or it begins its transaction. If it is
then given up, or no stream opens on it, the transaction is rolled back. A stream that
opens, whatever calls are made on its payload, ends all or nothing. -/
theorem owned_session_all_or_nothing (base : Server) (surroundings : ε) (descriptor : Descriptor)
    (settings : String) (schema : Schema ρ) (options : Options Server ε)
    (confined : ∀ hook, options.onClose = some hook → Context.Confined hook)
    (early : List Fault) (interludes : List Interlude) :
    match (Context.owned? descriptor settings : Work Error Server Context).perform base with
    | (.error _, after) => base.Unopened after
    | (.ok context, begun) =>
      context.state = .active ∧ Server.Begun base context.connection begun ∧
      let world : World Server ε := ⟨early.foldl Fault.inject begun, surroundings⟩
      Server.RolledBack base context.connection (context.release world.store) ∧
      match (Stream.openOn context schema options).perform world with
      | (.error _, after) => Server.RolledBack base context.connection after.store
      | (.ok stream, opened) =>
        stream.AllOrNothing base context.connection
          { opened with store := Interlude.afterAll stream.payload opened.store interludes } := by
  have owned := Context.leads_owned? base descriptor settings base rfl
  generalize (Context.owned? descriptor settings : Work Error Server Context).perform base =
    begun at owned ⊢
  obtain ⟨answer, begun⟩ := begun
  cases answer with
  | error fault => exact owned
  | ok context =>
    obtain ⟨active, owned, -, started⟩ := owned
    have faulted : Server.Inside context.connection begun (early.foldl Fault.inject begun) :=
      Server.inside_faults context.connection early begun
    have live : (⟨⟨early.foldl Fault.inject begun, surroundings⟩, context⟩ :
        Scope Server ε).Live base context.connection :=
      ⟨owned, rfl, active, started.inside faulted⟩
    refine ⟨active, started, live.rolledBack_leave, ?_⟩
    have opens := Stream.openOn_begun schema options live
    generalize (Stream.openOn context schema options).perform
      ⟨early.foldl Fault.inject begun, surroundings⟩ = opened at opens ⊢
    obtain ⟨answer, opened⟩ := opened
    cases answer with
    | error fault => exact opens
    | ok stream =>
      obtain ⟨hooks, opens⟩ := opens
      refine Stream.allOrNothing_of_live (opens.inside ?_) fun hook hooked => ?_
      · exact Server.inside_interludes context.connection stream.payload interludes opened.store
      · exact confined hook (hooks ▸ hooked)

/-- Insert a recording and commit it in the hook. -/
def committingOptions : Options Server Unit :=
  ⟨.createNew, .readWrite, Sample.seventh, some Sample.recording, some Context.commit⟩

/-- A session whose hook commits: it opens, bytes are written, and a commit that is
asked to fail meanwhile is the hook's. -/
theorem owned_session_committing_hook :
    (∀ hook, committingOptions.onClose = some hook → Context.Confined hook) ∧
    match (Context.owned? Sample.descriptor Sample.settings :
        Work Error Server Context).perform Sample.server with
    | (.error _, _) => False
    | (.ok context, begun) =>
      match (Stream.openOn context Sample.schema committingOptions).perform ⟨begun, ()⟩ with
      | (.error _, _) => False
      | (.ok stream, opened) =>
        stream.AllOrNothing Sample.server context.connection
          { opened with
            store := Interlude.afterAll stream.payload opened.store
              [.call (.write [1, 2]), .fault .committing] } := by
  have confined : ∀ hook, committingOptions.onClose = some hook → Context.Confined hook := by
    rintro _ ⟨⟩
    exact .commit
  refine ⟨confined, ?_⟩
  have ends := owned_session_all_or_nothing Sample.server () Sample.descriptor Sample.settings
    Sample.schema committingOptions confined [] [.call (.write [1, 2]), .fault .committing]
  have opens : (match (Context.owned? Sample.descriptor Sample.settings :
        Work Error Server Context).perform Sample.server with
      | (.error _, _) => false
      | (.ok context, begun) =>
        ((Stream.openOn context Sample.schema committingOptions).perform
          ⟨begun, ()⟩).1.isOk) = true := by
    decide +kernel
  revert ends opens
  generalize (Context.owned? Sample.descriptor Sample.settings :
    Work Error Server Context).perform Sample.server = begun
  obtain ⟨answer, begun⟩ := begun
  cases answer with
  | error fault => simp
  | ok context =>
    rintro ⟨-, -, -, ends⟩
    revert ends
    simp only [List.foldl_nil]
    generalize (Stream.openOn context Sample.schema committingOptions).perform ⟨begun, ()⟩ =
      opened
    obtain ⟨answer, opened⟩ := opened
    cases answer with
    | error fault => simp [Except.isOk, Except.toBool]
    | ok stream => exact fun ends _ => ends

end RowPayload
