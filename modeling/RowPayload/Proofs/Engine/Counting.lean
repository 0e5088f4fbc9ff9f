import RowPayload.Proofs.Engine.InPlace

/-!
# Counting rows that are inserted

A server counts the rows that statements insert. A query that is answered inserts none, and all
that is done with connections, transactions and payloads besides running statements leaves the
count alone.
-/

namespace RowPayload.Engine

/-- Whether a request runs no statement and does not reset the counters. -/
def Request.runsNone : Request → Bool
  | .resetCounters | .execute .. | .query .. => false
  | _ => true

namespace Server

/-! ## Payloads -/

/-- Work on a handle counts nothing. -/
theorem counters_onHandle {α : Type} (server : Server) (number : Nat)
    (work : Handle → Except IoFault (α × Handle)) :
    (server.onHandle number work).2.counters = server.counters := by
  unfold onHandle
  split
  · rfl
  · split <;> rfl

/-- Writing a handle back counts nothing. -/
theorem counters_writeBack (server : Server) (number : Nat) (handle : Handle) :
    (server.writeBack number handle).2.counters = server.counters := by
  unfold writeBack
  split
  · rfl
  · split
    · rfl
    · split <;> rfl

/-- A call on a payload counts nothing. -/
theorem counters_call (server : Server) (payload : Nat) (operation : FileOperation) :
    ((operation.perform payload).perform server).2.counters = server.counters := by
  cases operation <;> simp only [FileOperation.perform, Work.perform_map]
  case length => rfl
  case flush =>
    show (server.flushPayload payload).2.counters = _
    unfold flushPayload
    split
    · rfl
    · split
      · exact counters_writeBack server payload _
      · rfl
  all_goals exact counters_onHandle server payload _

/-- Closing a payload counts nothing. -/
theorem counters_closePayload (server : Server) (payload : Nat) :
    (server.closePayload payload).2.counters = server.counters := by
  unfold closePayload
  split
  · rfl
  · split
    · exact counters_writeBack (server.setHandle payload _) payload _
    · rfl

/-! ## Requests -/

/-- **A request that runs no statement leaves the count of inserted rows alone**, unless it resets
the counters. -/
theorem inserts_serve (server : Server) (request : Request) (none : request.runsNone = true) :
    (request.serve server).counters.inserts = server.counters.inserts := by
  cases request with
  | resetCounters | execute | query => cases none
  | createTable | refuseNextBegin | refuseNextCommit | release => rfl
  | connect settings =>
    show (server.connect settings).2.counters.inserts = _
    unfold connect
    split <;> rfl
  | beginTransaction id =>
    show (server.beginTransaction id).2.counters.inserts = _
    unfold beginTransaction
    split
    · rfl
    · rfl
    · split <;> rfl
  | commit id =>
    show (server.commit id).2.counters.inserts = _
    unfold commit
    split
    · rfl
    · rfl
    · dsimp only
      split <;> rfl
  | rollback id =>
    show (server.rollback id).2.counters.inserts = _
    unfold rollback
    split <;> rfl
  | close id =>
    show (server.close id).counters.inserts = _
    unfold close
    split <;> rfl
  | openPayload id path token access =>
    show (server.openPayload id path token access).2.counters.inserts = _
    unfold openPayload
    split
    · rfl
    · rfl
    · split
      · rfl
      · split <;> rfl
  | call payload operation =>
    exact congrArg Counters.inserts (counters_call server payload operation)
  | closePayload payload => exact congrArg Counters.inserts (counters_closePayload server payload)
  | releasePayload payload => exact congrArg Counters.inserts (counters_closePayload server payload)

/-- Neither do such requests one after another. -/
theorem inserts_serveAll (server : Server) (requests : List Request)
    (none : ∀ request ∈ requests, request.runsNone = true) :
    (requests.foldl Request.serve server).counters.inserts = server.counters.inserts := by
  induction requests generalizing server with
  | nil => rfl
  | cons request rest inductionHypothesis =>
    rw [List.foldl_cons, inductionHypothesis _ fun other member => none other (by simp [member])]
    exact inserts_serve server request (none request (by simp))

/-- A query that is answered inserts no row. -/
theorem inserts_query {server after : Server} {id : Nat} {command : Command} {result : ResultSet}
    (queried : server.query id command = (.ok result, after)) :
    after.counters.inserts = server.counters.inserts := by
  unfold query at queried
  split at queried
  · cases queried
  · rename_i ran
    cases queried
    obtain ⟨statement, effect, -, -, runs, outcome, rfl⟩ := run_ok ran
    rw [inserts_countStatement, eq_reading_of_rows runs outcome]
    rfl
  · cases queried

/-! ## How much the count rises -/

/-- By how much the count of inserted rows has risen from one server to another. -/
def raise (before after : Server) : Int :=
  after.counters.inserts - before.counters.inserts

/-- A count has not risen to itself. -/
@[simp] theorem raise_self (server : Server) : server.raise server = 0 := Int.sub_self _

/-- Rises one after another add up. -/
theorem raise_add (before middle after : Server) :
    before.raise middle + middle.raise after = before.raise after := by
  unfold raise
  omega

/-- What the count has risen by is what has been added to it. -/
theorem raise_eq_iff {before after : Server} {count : Int} :
    before.raise after = count ↔
      (after.counters.inserts : Int) = before.counters.inserts + count := by
  unfold raise
  omega

end Server

end RowPayload.Engine
