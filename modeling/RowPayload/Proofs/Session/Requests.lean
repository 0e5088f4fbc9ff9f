import RowPayload.Proofs.Engine.Seats
import RowPayload.Proofs.Session.AllOrNothing

/-!
# Sessions as requests

A session that owns its connection asks its server for one thing after another, and never to make
the next start of a transaction fail. So it leads from a reachable server to a reachable one, and
a transaction that could begin before the session can begin after it.
-/

namespace RowPayload

open Engine

variable {ε ρ : Type} {id : Nat}

namespace Engine.Server

/-! ## Starts of transactions -/

section

variable {server : Server} (willing : server.failNextBegin = false)
include willing

/-- **A request makes no start of a transaction fail** unless it asks for that. -/
theorem failNextBegin_serve {request : Request} (other : request ≠ .refuseNextBegin) :
    (request.serve server).failNextBegin = false := by
  cases request with
  | createTable | resetCounters | refuseNextCommit | release => exact willing
  | refuseNextBegin => exact absurd rfl other
  | connect settings =>
    show (server.connect settings).2.failNextBegin = false
    unfold connect
    split <;> exact willing
  | beginTransaction id =>
    show (server.beginTransaction id).2.failNextBegin = false
    unfold beginTransaction
    split
    · exact willing
    · exact willing
    · split <;> first | rfl | exact willing
  | commit id =>
    show (server.commit id).2.failNextBegin = false
    unfold commit
    split
    · exact willing
    · exact willing
    · dsimp only
      split <;> exact willing
  | rollback id =>
    show (server.rollback id).2.failNextBegin = false
    unfold rollback
    split <;> exact willing
  | close id =>
    show (server.close id).failNextBegin = false
    unfold close
    split <;> exact willing
  | execute id command => exact (seated_execute server id command).failNextBegin.trans willing
  | query id command => exact (seated_query server id command).failNextBegin.trans willing
  | openPayload id path token access =>
    exact (seated_openPayload server id path token access).failNextBegin.trans willing
  | call payload operation =>
    exact (seated_call server payload operation).failNextBegin.trans willing
  | closePayload payload => exact (seated_closePayload server payload).failNextBegin.trans willing
  | releasePayload payload =>
    exact (seated_releasePayload server payload).failNextBegin.trans willing

end

/-! ## Requests one after another -/

/-- Requests lead from one server to another, none of which makes a start fail. -/
def Serves (before after : Server) : Prop :=
  ∃ requests : List Request, .refuseNextBegin ∉ requests ∧
    after = requests.foldl Request.serve before

namespace Serves

variable {before middle after : Server}

/-- No request leads anywhere else. -/
theorem refl (server : Server) : server.Serves server := ⟨[], by simp, rfl⟩

/-- One request after others. -/
theorem tail (serves : before.Serves middle) (request : Request)
    (other : request ≠ .refuseNextBegin) : before.Serves (request.serve middle) := by
  obtain ⟨requests, none, rfl⟩ := serves
  refine ⟨requests ++ [request], ?_, by rw [List.foldl_append]; rfl⟩
  simpa [none] using Ne.symm other

/-- Requests after requests. -/
theorem trans (first : before.Serves middle) (second : middle.Serves after) :
    before.Serves after := by
  obtain ⟨requests, none, rfl⟩ := first
  obtain ⟨others, noneOther, rfl⟩ := second
  exact ⟨requests ++ others, by simp [none, noneOther], by rw [List.foldl_append]⟩

/-- Requests lead from a reachable server to a reachable one. -/
theorem reachable (serves : before.Serves after) (reached : before.Reachable) :
    after.Reachable := by
  obtain ⟨requests, -, rfl⟩ := serves
  induction requests generalizing before with
  | nil => exact reached
  | cons request rest inductionHypothesis => exact inductionHypothesis (.serve reached request)

/-- A transaction that could begin can still begin after requests. -/
theorem willing (serves : before.Serves after) (willing : before.failNextBegin = false) :
    after.failNextBegin = false := by
  obtain ⟨requests, none, rfl⟩ := serves
  induction requests generalizing before with
  | nil => exact willing
  | cons request rest inductionHypothesis =>
    rw [List.mem_cons, not_or] at none
    exact inductionHypothesis (failNextBegin_serve willing (Ne.symm none.1)) none.2

end Serves

end Engine.Server

/-! ## The steps of a session -/

/-- An owned context was asked for by connecting with settings that can be read and beginning a
transaction, on a server that let it begin and would let another one begin. -/
theorem Context.owned?_requests {base begun : Server} {descriptor : Descriptor} {settings : String}
    {context : Context}
    (owned : (owned? descriptor settings : Work Error Server Context).perform base =
      (.ok context, begun)) :
    begun = [.connect settings, .beginTransaction context.connection].foldl Request.serve base ∧
      begun.failNextBegin = false ∧ ∃ parsed, Settings.parse settings = .ok parsed := by
  obtain ⟨number, connected, connects, owned⟩ := Work.perform_bind_ok owned
  have opened : base.connect settings = (.ok number, connected) := connects
  obtain ⟨answer, started, begins, owned⟩ := Work.perform_bind_ok owned
  obtain ⟨parsed, readable⟩ : ∃ parsed, Settings.parse settings = .ok parsed := by
    unfold Server.connect at opened
    split at opened
    · cases opened
    · exact ⟨_, ‹_›⟩
  have first : (Request.connect settings).serve base = connected := by
    rw [Request.serve, opened]
  have performed : (Backend.beginTransaction number : Work Error Server Unit).perform connected =
      ((connected.beginTransaction number).1.mapError Error.ofEngine,
        (connected.beginTransaction number).2) := rfl
  rw [Work.perform_attempt, performed] at begins
  cases began : connected.beginTransaction number with
  | mk result after =>
    rw [began] at begins
    cases result with
    | error failure =>
      cases begins
      cases owned
    | ok _ =>
      cases begins
      cases owned
      refine ⟨?_, ?_, parsed, readable⟩
      · rw [List.foldl_cons, List.foldl_cons, List.foldl_nil, first, Request.serve, began]
      · unfold Server.beginTransaction at began
        split at began
        · cases began
        · cases began
        · split at began
          · cases began
          · rename_i allowed
            cases began
            have willing : connected.failNextBegin = false := by simpa using allowed
            exact willing

/-- An owned context was asked for on a server that let its transaction begin and would let
another one begin, with settings that can be read. -/
theorem Context.owned?_serves {base begun : Server} {descriptor : Descriptor} {settings : String}
    {context : Context}
    (owned : (owned? descriptor settings : Work Error Server Context).perform base =
      (.ok context, begun)) :
    base.Serves begun ∧ begun.failNextBegin = false ∧
      ∃ parsed, Settings.parse settings = .ok parsed := by
  obtain ⟨served, willing, readable⟩ := owned?_requests owned
  exact ⟨⟨_, by simp, served⟩, willing, readable⟩

namespace Stream

variable {schema : Schema ρ} {options : Options Server ε} {context : Context}
  {world opened : World Server ε} {stream : Stream Server ε ρ}

/-- Opening a stream that does not append asks for its statement, the query and the payload. -/
theorem openOn_serves (other : options.mode ≠ .append)
    (opens : (openOn context schema options).perform world = (.ok stream, opened)) :
    world.store.Serves opened.store := by
  obtain ⟨filter, ready, found, finish, prepared, done, -, rfl⟩ := openOn_cases opens
  have first : world.store.Serves ready.store := by
    obtain ⟨-, -, _, _, _, -, ⟨-, same⟩ | ⟨written, count, -, executed⟩⟩ := prepareRow_ok prepared
    · rw [same]
      exact .refl _
    · have same : ready.store = (Request.execute context.connection written).serve world.store := by
        rw [Request.serve, executed]
      rw [same]
      exact (Server.Serves.refl _).tail _ (by simp)
  obtain ⟨result, row, token, asked, after, queried, -, -, opens, -, continued⟩ :=
    openRow_cases done
  obtain rfl : finish = after := by
    rcases continued with ⟨-, same⟩ | ⟨appends, -⟩
    · exact same
    · exact absurd appends other
  have askedSame : asked = (Request.query ready.context.connection (Lifecycle.handleQuery
      ready.context.descriptor filter options.access.canRead)).serve ready.store := by
    rw [Request.serve, queried]
  have finishSame : finish.store = (Request.openPayload ready.context.connection found.path token
      options.access).serve asked := by
    rw [Request.serve, opens]
  show world.store.Serves finish.store
  rw [finishSame, askedSame]
  exact (first.tail (.query ..) (by simp)).tail (.openPayload ..) (by simp)

/-- Closing a stream without a hook asks for its handle to be closed and given up, and for its
connection to commit, close and go. -/
theorem close_requests (holding : (⟨world, stream.context⟩ : Scope Server ε).Holding id)
    (unhooked : stream.onClose = none) :
    (stream.close.perform world).2.store = [.closePayload stream.payload,
      .releasePayload stream.payload, .commit id, .close id, .release id].foldl Request.serve
        world.store := by
  obtain ⟨-, left⟩ := close_unhooked world unhooked
  have closed : (stream.closeHandle world).2.Holding id :=
    ⟨holding.owned, holding.connection, holding.active⟩
  rw [left, perform_settle, if_pos closed.active, Context.commit,
    Scope.leave_finish (by simp) Backend.commit closed, Server.perform_commit]
  rfl

/-- Closing a stream without a hook makes no start of a transaction fail. -/
theorem close_serves (holding : (⟨world, stream.context⟩ : Scope Server ε).Holding id)
    (unhooked : stream.onClose = none) :
    world.store.Serves (stream.close.perform world).2.store :=
  ⟨_, by simp, close_requests holding unhooked⟩

end Stream

/-- Calls on a payload are requests. -/
theorem FileOperation.performAll_serves (payload : Nat) (operations : List FileOperation)
    (server : Server) : server.Serves (performAll payload operations server) := by
  induction operations generalizing server with
  | nil => exact .refl server
  | cons operation rest inductionHypothesis =>
    have first : server.Serves ((operation.perform payload).perform server).2 :=
      (Server.Serves.refl server).tail (.call payload operation) (by simp)
    exact first.trans (inductionHypothesis _)

end RowPayload
