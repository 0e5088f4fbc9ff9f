import RowPayload.Proofs.Engine.Numbering
import RowPayload.Proofs.Engine.Seats
import RowPayload.Proofs.Sample

/-!
# Accounts of transactions and connections

Along any requests books are kept by hand. For each connection they have a flag for its state
and, apart from it, the number of the transaction it holds, so that the two could fall apart; and
they list the connections that were opened, those that were closed and those that were dropped
while they held a transaction. The books agree with the server, and its counters with the books:
every transaction that began was committed or rolled back, is in progress or was dropped, and
every connection that was opened was closed or never will be counted as closed.
-/

namespace RowPayload.Engine

namespace Seat

/-- Begin the transaction with a number, unless that is refused. -/
def begin (number : Nat) (refused : Bool) (seat : Seat) : Seat :=
  if seat.state = .closed then seat
  else if seat.held.isSome then seat
  else if refused then seat
  else ⟨.inTransaction, some number⟩

/-- End the transaction that is held. -/
def endTransaction (seat : Seat) : Seat :=
  if seat.state = .closed then seat
  else if seat.held.isSome then ⟨.ready, none⟩
  else seat

/-- End the transaction that is held, and close the connection. -/
def close (seat : Seat) : Seat :=
  if seat.state = .closed then seat else { seat.endTransaction with state := .closed }

end Seat

/-! ## Books -/

/-- What is kept by hand of the connections of a server. -/
structure Books where
  seats : Nat → Seat
  /-- The connections opened. -/
  opened : List Nat
  /-- The connections closed. -/
  closed : List Nat
  /-- The connections dropped while they held a transaction. -/
  dropped : List Nat

namespace Books

/-- Nothing was opened yet. -/
def blank : Books := ⟨fun _ => .vacant, [], [], []⟩

/-- Change the seat of a connection. -/
def put (books : Books) (id : Nat) (seat : Seat) : Books :=
  { books with seats := fun other => if other = id then seat else books.seats other }

/-- List a connection as opened, and seat it. -/
def enroll (books : Books) (id : Nat) : Books :=
  { books.put id ⟨.ready, none⟩ with opened := id :: books.opened }

/-- How many connections hold a transaction. -/
def holding (books : Books) : Nat := books.opened.countP fun id => (books.seats id).held.isSome

/-- How many connections were never closed. -/
def neverClosed (books : Books) : Nat := books.opened.countP fun id => decide (id ∉ books.closed)

end Books

/-- The books after a request to a server. -/
def Request.enter (server : Server) (books : Books) : Request → Books
  | .connect settings =>
    match (server.connect settings).1 with
    | .ok id => books.enroll id
    | .error _ => books
  | .beginTransaction id =>
    books.put id ((books.seats id).begin server.transactions server.failNextBegin)
  | .commit id | .rollback id => books.put id (books.seats id).endTransaction
  | .close id =>
    if (books.seats id).state = .closed then books
    else { books.put id (books.seats id).close with closed := id :: books.closed }
  | .release id =>
    { books.put id .vacant with
      dropped := if (books.seats id).held.isSome then id :: books.dropped else books.dropped }
  | _ => books

/-- A server and its books. -/
structure Audited where
  server : Server
  books : Books

/-- Requests to a new server, with the books kept. -/
def Audited.serveAll (secret : Bytes) (requests : List Request) : Audited :=
  requests.foldl
    (fun audited request =>
      ⟨request.serve audited.server, request.enter audited.server audited.books⟩)
    ⟨.ofSecret secret, .blank⟩

/-! ## Counting along a list -/

/-- A property that changes at one element of a list without repetitions holds of as many elements
more or fewer as that element counts. -/
theorem countP_change {p q : Nat → Bool} {list : List Nat} (distinct : list.Nodup) {id : Nat}
    (member : id ∈ list) (others : ∀ other, other ≠ id → q other = p other) :
    list.countP q + (p id).toNat = list.countP p + (q id).toNat := by
  induction list with
  | nil => cases member
  | cons first rest inductionHypothesis =>
    rw [List.nodup_cons] at distinct
    simp only [List.countP_cons]
    by_cases here : id = first
    · subst here
      have same : rest.countP q = rest.countP p := List.countP_congr fun other found => by
        rw [others other fun equal => distinct.1 (equal ▸ found)]
      cases p id <;> cases q id <;> simp [same]
    · have later : id ∈ rest := (List.mem_cons.1 member).resolve_left here
      have counted := inductionHypothesis distinct.2 later
      rw [others first fun equal => here equal.symm]
      omega

namespace Books

variable {books : Books} {server after : Server} {id : Nat}

/-- Putting a connection into the seat it is in changes nothing. -/
theorem put_same (books : Books) (id : Nat) : books.put id (books.seats id) = books := by
  have same : (fun other => if other = id then books.seats id else books.seats other) =
      books.seats := by
    funext other
    split <;> simp_all
  rw [put, same]

/-- One transaction more is held, or one fewer, as a connection takes another seat. -/
theorem holding_put (distinct : books.opened.Nodup) (member : id ∈ books.opened) (seat : Seat) :
    (books.put id seat).holding + (books.seats id).held.isSome.toNat =
      books.holding + seat.held.isSome.toNat := by
  have changed := countP_change (p := fun other => (books.seats other).held.isSome)
    (q := fun other => ((books.put id seat).seats other).held.isSome) distinct member (by
      intro other different
      simp [put, different])
  exact changed.trans (by simp [put, holding])

/-- A connection that is opened is seated, and the others stay in their seats. -/
theorem seats_enroll (books : Books) (id other : Nat) :
    (books.enroll id).seats other = if other = id then ⟨.ready, none⟩ else books.seats other := rfl

/-- A connection that is opened holds no transaction. -/
theorem holding_enroll (new : id ∉ books.opened) : (books.enroll id).holding = books.holding := by
  have same : books.opened.countP (fun other => ((books.enroll id).seats other).held.isSome) =
      books.holding := List.countP_congr fun other listed => by
    have different : other ≠ id := fun equal => new (equal ▸ listed)
    rw [seats_enroll, if_neg different]
  show List.countP (fun other => ((books.enroll id).seats other).held.isSome)
    (id :: books.opened) = books.holding
  rw [List.countP_cons_of_neg (by simp [seats_enroll]), same]

/-- A connection that is opened is one more that was never closed. -/
theorem neverClosed_enroll (unclosed : id ∉ books.closed) :
    (books.enroll id).neverClosed = books.neverClosed + 1 :=
  List.countP_cons_of_pos (decide_eq_true unclosed)

/-! ## The books agree with the server -/

/-- What the books say of the connections is so. -/
structure Agree (books : Books) (server : Server) : Prop where
  seats : ∀ id, books.seats id = server.seat id
  distinct : books.opened.Nodup
  listed : ∀ id, books.seats id ≠ .vacant → id ∈ books.opened
  numbered : ∀ id ∈ books.opened, id < server.connections.next
  closed : ∀ id ∈ books.closed, id ∈ books.opened ∧ books.seats id = .vacant

/-- The counters of a server are what the books come to. -/
structure Balance (books : Books) (server : Server) : Prop where
  transactions : server.counters.begins = server.counters.commits + server.counters.rollbacks +
    books.holding + books.dropped.length
  connections : server.counters.connectionsOpened =
    server.counters.connectionsClosed + books.neverClosed

/-- The books are in order: they agree with the server and balance its counters. -/
structure InOrder (books : Books) (server : Server) : Prop where
  agree : books.Agree server
  balance : books.Balance server

namespace Agree

/-- A seat that is not vacant is that of a connection that was opened. -/
theorem member (agree : books.Agree server) {seat : Seat} (seated : server.seat id = seat)
    (taken : seat ≠ .vacant) : id ∈ books.opened := by
  apply agree.listed
  rwa [agree.seats, seated]

/-- A connection that is open takes another seat. -/
theorem put (agree : books.Agree server) (taken : server.seat id ≠ .vacant) {seat : Seat}
    (seats : ∀ other, after.seat other = if other = id then seat else server.seat other)
    (next : after.connections.next = server.connections.next) :
    (books.put id seat).Agree after where
  seats := by
    intro other
    show (if other = id then seat else books.seats other) = after.seat other
    rw [seats, agree.seats]
  distinct := agree.distinct
  listed := by
    intro other listed
    by_cases here : other = id
    · rw [here]
      exact agree.member rfl taken
    · apply agree.listed
      simpa [Books.put, here] using listed
  numbered := by
    rw [next]
    exact agree.numbered
  closed := by
    intro other listed
    have closed := agree.closed other listed
    have different : other ≠ id := by
      rintro rfl
      rw [agree.seats] at closed
      exact taken closed.2
    exact ⟨closed.1, by simpa [Books.put, different] using closed.2⟩

end Agree

namespace InOrder

/-- The books stay in order as long as no connection leaves its seat and nothing is counted of
transactions and connections. -/
theorem of_seats (order : books.InOrder server) (seats : ∀ id, after.seat id = server.seat id)
    (next : after.connections.next = server.connections.next)
    (account : after.counters.account = server.counters.account) : books.InOrder after where
  agree := ⟨fun id => (order.agree.seats id).trans (seats id).symm, order.agree.distinct,
    order.agree.listed, by simpa only [next] using order.agree.numbered, order.agree.closed⟩
  balance := by
    simp only [Counters.account, Account.mk.injEq] at account
    obtain ⟨begins, commits, rollbacks, opened, closed⟩ := account
    constructor
    · rw [begins, commits, rollbacks]
      exact order.balance.transactions
    · rw [opened, closed]
      exact order.balance.connections

/-- A step that leaves every connection in its seat leaves the books in order. -/
theorem seated (order : books.InOrder server) (seated : server.Seated after) :
    books.InOrder after :=
  order.of_seats seated.seats seated.next seated.account

/-- A connection that is open takes another seat, and what is counted and dropped makes up for
the transaction it holds more or fewer. -/
theorem move (order : books.InOrder server) (taken : server.seat id ≠ .vacant) {seat : Seat}
    (seats : ∀ other, after.seat other = if other = id then seat else server.seat other)
    (next : after.connections.next = server.connections.next) {dropped : List Nat}
    (turnover : after.counters.begins + server.counters.commits + server.counters.rollbacks +
        books.dropped.length + (server.seat id).held.isSome.toNat =
      server.counters.begins + after.counters.commits + after.counters.rollbacks +
        dropped.length + seat.held.isSome.toNat)
    (opened : after.counters.connectionsOpened = server.counters.connectionsOpened)
    (closed : after.counters.connectionsClosed = server.counters.connectionsClosed) :
    { books.put id seat with dropped := dropped : Books }.InOrder after where
  agree :=
    have agree := order.agree.put taken seats next
    ⟨agree.seats, agree.distinct, agree.listed, agree.numbered, agree.closed⟩
  balance := by
    constructor
    case transactions =>
      have held := holding_put order.agree.distinct (order.agree.member rfl taken) seat
      have balance := order.balance.transactions
      rw [order.agree.seats] at held
      show after.counters.begins = after.counters.commits + after.counters.rollbacks +
        (books.put id seat).holding + dropped.length
      omega
    case connections =>
      rw [opened, closed]
      exact order.balance.connections

/-- A connection that has just left its seat is listed as closed, and counted as such. -/
theorem strike (order : books.InOrder server) (member : id ∈ books.opened)
    (left : books.seats id = .vacant) (new : id ∉ books.closed) :
    { books with closed := id :: books.closed }.InOrder (server.count fun counters =>
      { counters with connectionsClosed := counters.connectionsClosed + 1 }) where
  agree := by
    refine ⟨order.agree.seats, order.agree.distinct, order.agree.listed, order.agree.numbered, ?_⟩
    intro other listed
    rcases List.mem_cons.1 listed with rfl | before
    · exact ⟨member, left⟩
    · exact order.agree.closed other before
  balance := by
    refine ⟨order.balance.transactions, ?_⟩
    have fewer := countP_change (p := fun other => decide (other ∉ books.closed))
      (q := fun other => decide (other ∉ id :: books.closed)) order.agree.distinct member (by
        intro other different
        simp [different])
    have balance := order.balance.connections
    simp only [new, not_false_eq_true, decide_true, List.mem_cons_self, not_true_eq_false,
      decide_false, Bool.toNat_true, Bool.toNat_false] at fewer
    show server.counters.connectionsOpened = server.counters.connectionsClosed + 1 +
      books.opened.countP fun other => decide (other ∉ id :: books.closed)
    rw [balance, neverClosed]
    omega

/-- A connection is put into another state, and what is counted makes up for the transaction it
holds more or fewer. -/
theorem put (order : books.InOrder server) (alive : server.connection id ≠ .closed)
    {state : Connection} (connections : after.connections = (server.setConnection id state).connections)
    (turnover : after.counters.begins + server.counters.commits + server.counters.rollbacks +
        (server.seat id).held.isSome.toNat =
      server.counters.begins + after.counters.commits + after.counters.rollbacks +
        state.seat.held.isSome.toNat)
    (opened : after.counters.connectionsOpened = server.counters.connectionsOpened)
    (closed : after.counters.connectionsClosed = server.counters.connectionsClosed) :
    (books.put id state.seat).InOrder after := by
  have taken : server.seat id ≠ .vacant := by
    unfold Server.seat
    cases connected : server.connection id with
    | closed => exact absurd connected alive
    | ready => simp [Connection.seat, Seat.vacant]
    | inTransaction transaction => simp [Connection.seat, Seat.vacant]
  have seats (other : Nat) :
      after.seat other = if other = id then state.seat else server.seat other := by
    rw [← Server.seat_setConnection alive, Server.seat, Server.seat, Server.connection,
      Server.connection, connections]
  have next : after.connections.next = server.connections.next := by
    rw [connections]
    rfl
  have moved : { books.put id state.seat with dropped := books.dropped : Books }.InOrder after :=
    order.move taken seats next (by omega) opened closed
  exact moved

/-- Beginning a transaction. -/
theorem beginTransaction (order : books.InOrder server) (id : Nat) :
    ((Request.beginTransaction id).enter server books).InOrder (server.beginTransaction id).2 := by
  have seat : books.seats id = server.seat id := order.agree.seats id
  have stay (stays : (books.seats id).begin server.transactions server.failNextBegin =
      books.seats id) : ((Request.beginTransaction id).enter server books).InOrder server := by
    rw [Request.enter, stays, put_same]
    exact order
  unfold Server.beginTransaction
  cases connected : server.connection id with
  | closed => exact stay (by rw [seat, Server.seat, connected]; rfl)
  | inTransaction transaction => exact stay (by rw [seat, Server.seat, connected]; rfl)
  | ready =>
    rw [Server.seat, connected] at seat
    by_cases refused : server.failNextBegin = true
    · simp only [refused, if_true]
      have stays := stay (by rw [seat, refused]; rfl)
      exact stays.of_seats (fun _ => rfl) rfl rfl
    · have alive : server.connection id ≠ .closed := by simp [connected]
      have begins : (books.seats id).begin server.transactions server.failNextBegin =
          Connection.seat (.inTransaction
            (.start server.secret server.transactions server.catalog)) := by
        rw [seat]
        simp [Seat.begin, Connection.seat, refused, Transaction.start]
      rw [Request.enter, begins]
      dsimp only
      rw [if_neg refused]
      refine order.put alive rfl ?_ rfl rfl
      rw [Server.seat, connected]
      show server.counters.begins + 1 + server.counters.commits + server.counters.rollbacks + 0 =
        server.counters.begins + server.counters.commits + server.counters.rollbacks + 1
      omega

/-- Ending the transaction of a connection, however it ends. -/
theorem endTransaction (order : books.InOrder server) {transaction : Transaction}
    (held : server.connection id = .inTransaction transaction)
    (connections : after.connections = (server.setConnection id .ready).connections)
    (ended : after.counters.commits + after.counters.rollbacks =
      server.counters.commits + server.counters.rollbacks + 1)
    (begins : after.counters.begins = server.counters.begins)
    (opened : after.counters.connectionsOpened = server.counters.connectionsOpened)
    (closed : after.counters.connectionsClosed = server.counters.connectionsClosed) :
    (books.put id (books.seats id).endTransaction).InOrder after := by
  have alive : server.connection id ≠ .closed := by simp [held]
  have ends : (books.seats id).endTransaction = Connection.seat .ready := by
    rw [order.agree.seats, Server.seat, held]
    rfl
  rw [ends]
  refine order.put alive connections ?_ opened closed
  rw [Server.seat, held, begins]
  show _ + _ + _ + 1 = _ + _ + _ + 0
  omega

/-- Where no transaction is held, none ends. -/
theorem endTransaction_idle (order : books.InOrder server)
    (idle : ∀ transaction, server.connection id ≠ .inTransaction transaction) :
    (books.put id (books.seats id).endTransaction).InOrder server := by
  have stays : (books.seats id).endTransaction = books.seats id := by
    rw [order.agree.seats, Server.seat]
    cases connected : server.connection id with
    | closed => rfl
    | ready => rfl
    | inTransaction transaction => exact absurd connected (idle transaction)
  rw [stays, put_same]
  exact order

/-- Committing. A commit that is refused is counted as a rollback. -/
theorem commit (order : books.InOrder server) (id : Nat) :
    ((Request.commit id).enter server books).InOrder (server.commit id).2 := by
  rw [Request.enter]
  unfold Server.commit
  cases connected : server.connection id with
  | closed => exact order.endTransaction_idle (by simp [connected])
  | ready => exact order.endTransaction_idle (by simp [connected])
  | inTransaction transaction =>
    dsimp only
    split
    · exact order.endTransaction connected rfl rfl rfl rfl rfl
    · refine order.endTransaction connected rfl ?_ rfl rfl rfl
      exact Nat.add_right_comm _ 1 _

/-- Rolling back. -/
theorem rollback (order : books.InOrder server) (id : Nat) :
    ((Request.rollback id).enter server books).InOrder (server.rollback id).2 := by
  rw [Request.enter]
  unfold Server.rollback
  cases connected : server.connection id with
  | closed => exact order.endTransaction_idle (by simp [connected])
  | ready => exact order.endTransaction_idle (by simp [connected])
  | inTransaction transaction => exact order.endTransaction connected rfl rfl rfl rfl rfl

/-- Closing a connection. -/
theorem close (order : books.InOrder server) (id : Nat) :
    ((Request.close id).enter server books).InOrder (server.close id) := by
  have seat : books.seats id = server.seat id := order.agree.seats id
  -- what is left to do when the connection was put into the closed state
  have closing {left : Server} (taken : server.seat id ≠ .vacant)
      (closes : (books.seats id).close = .vacant) (moved : (books.put id .vacant).InOrder left) :
      ((Request.close id).enter server books).InOrder (left.count fun counters =>
        { counters with connectionsClosed := counters.connectionsClosed + 1 }) := by
    have alive : (books.seats id).state ≠ .closed := by
      intro closed
      rw [Seat.close, if_pos closed] at closes
      exact taken (seat.symm.trans closes)
    have unlisted : id ∉ books.closed := fun listed =>
      taken (seat.symm.trans (order.agree.closed id listed).2)
    rw [Request.enter, if_neg alive, closes]
    exact moved.strike (order.agree.member rfl taken) (if_pos rfl) unlisted
  unfold Server.close
  cases connected : server.connection id with
  | closed =>
    rw [Server.seat, connected] at seat
    rw [Request.enter, if_pos (by rw [seat]; rfl)]
    exact order
  | ready =>
    have alive : server.connection id ≠ .closed := by simp [connected]
    have before : server.seat id = Connection.seat .ready := by rw [Server.seat, connected]
    have moved : (books.put id (Connection.seat .closed)).InOrder
        (server.setConnection id .closed) :=
      order.put alive rfl (by rw [before]; rfl) rfl rfl
    exact closing (by simp [before, Connection.seat, Seat.vacant]) (by rw [seat, before]; rfl) moved
  | inTransaction transaction =>
    have alive : server.connection id ≠ .closed := by simp [connected]
    have before : server.seat id = Connection.seat (.inTransaction transaction) := by
      rw [Server.seat, connected]
    have moved : (books.put id (Connection.seat .closed)).InOrder
        (server.countRollback.setConnection id .closed) := by
      refine order.put alive rfl ?_ rfl rfl
      rw [before]
      rfl
    exact closing (by simp [before, Connection.seat, Seat.vacant]) (by rw [seat, before]; rfl) moved

/-- Dropping a connection. -/
theorem release (order : books.InOrder server) (id : Nat) :
    ((Request.release id).enter server books).InOrder (server.release id) := by
  have seat : books.seats id = server.seat id := order.agree.seats id
  have seats (other : Nat) :
      (server.release id).seat other = if other = id then .vacant else server.seat other := by
    rw [Server.seat, Server.seat, Server.connection_release]
    split <;> rfl
  rw [Request.enter]
  by_cases taken : server.seat id = .vacant
  · have same : books.put id .vacant = books := by
      rw [← taken, ← seat, put_same]
    rw [same, seat, taken]
    refine order.of_seats (fun other => ?_) rfl rfl
    rw [seats]
    split
    · rename_i here
      rw [here, taken]
    · rfl
  · refine order.move taken seats rfl ?_ rfl rfl
    rw [seat]
    cases (server.seat id).held with
    | none => rfl
    | some transaction =>
      show _ + _ + _ + _ + 1 = _ + _ + _ + (_ + 1) + 0
      rfl

/-- A connection is opened, with a number that no other has had. -/
theorem enroll (order : books.InOrder server)
    (seats : ∀ id, after.seat id =
      if id = server.connections.next then ⟨.ready, none⟩ else server.seat id)
    (next : after.connections.next = server.connections.next + 1)
    (account : after.counters.account = server.counters.account.withOpened) :
    (books.enroll server.connections.next).InOrder after := by
  have fresh : server.connections.next ∉ books.opened := fun listed =>
    Nat.lt_irrefl _ (order.agree.numbered _ listed)
  have unclosed : server.connections.next ∉ books.closed := fun listed =>
    fresh (order.agree.closed _ listed).1
  simp only [Counters.account, Account.withOpened, Account.mk.injEq] at account
  obtain ⟨begins, commits, rollbacks, opened, closed⟩ := account
  constructor
  case agree =>
    constructor
    case seats =>
      intro id
      rw [seats_enroll, seats, order.agree.seats]
    case distinct => exact List.nodup_cons.2 ⟨fresh, order.agree.distinct⟩
    case listed =>
      intro id listed
      rw [seats_enroll] at listed
      by_cases here : id = server.connections.next
      · exact List.mem_cons.2 (.inl here)
      · rw [if_neg here] at listed
        exact List.mem_cons_of_mem _ (order.agree.listed id listed)
    case numbered =>
      intro id listed
      rw [next]
      rcases List.mem_cons.1 listed with rfl | before
      · exact Nat.lt_succ_self _
      · exact Nat.lt_succ_of_lt (order.agree.numbered id before)
    case closed =>
      intro id listed
      have closed := order.agree.closed id listed
      have different : id ≠ server.connections.next := fun same => fresh (same ▸ closed.1)
      rw [seats_enroll, if_neg different]
      exact ⟨List.mem_cons_of_mem _ closed.1, closed.2⟩
  case balance =>
    constructor
    case transactions =>
      rw [begins, commits, rollbacks, holding_enroll fresh]
      exact order.balance.transactions
    case connections =>
      rw [opened, closed, neverClosed_enroll unclosed, order.balance.connections]
      rfl

/-- Opening a connection. -/
theorem connect (order : books.InOrder server) (settings : String) :
    ((Request.connect settings).enter server books).InOrder (server.connect settings).2 := by
  rw [Request.enter]
  unfold Server.connect
  cases Settings.parse settings with
  | error fault => exact order
  | ok _ =>
    refine order.enroll (fun id => ?_) rfl rfl
    rw [Server.seat, Server.connection_count, Server.connection_add]
    split <;> rfl

/-- **Every request leaves the books in order**, unless it resets the counters. -/
theorem serve (order : books.InOrder server) {request : Request}
    (kept : request ≠ .resetCounters) :
    (request.enter server books).InOrder (request.serve server) := by
  cases request with
  | createTable table blank => exact order.of_seats (fun _ => rfl) rfl rfl
  | resetCounters => exact absurd rfl kept
  | refuseNextBegin => exact order.of_seats (fun _ => rfl) rfl rfl
  | refuseNextCommit => exact order.of_seats (fun _ => rfl) rfl rfl
  | connect settings => exact order.connect settings
  | beginTransaction id => exact order.beginTransaction id
  | commit id => exact order.commit id
  | rollback id => exact order.rollback id
  | close id => exact order.close id
  | release id => exact order.release id
  | execute id command => exact order.seated (server.seated_execute id command)
  | query id command => exact order.seated (server.seated_query id command)
  | openPayload id path token access =>
    exact order.seated (server.seated_openPayload id path token access)
  | call payload operation => exact order.seated (server.seated_call payload operation)
  | closePayload payload => exact order.seated (server.seated_closePayload payload)
  | releasePayload payload => exact order.seated (server.seated_releasePayload payload)

end InOrder

end Books

/-! ## Connections that were closed -/

namespace Server

/-- A connection that was opened and is closed. -/
structure Shut (server : Server) (id : Nat) : Prop where
  opened : id < server.connections.next
  closed : server.connection id = .closed

namespace Shut

variable {server after : Server} {id : Nat}

/-- A connection that is put into a state was not closed, so a closed one is another. -/
theorem setConnection (shut : server.Shut id) {other : Nat}
    (alive : server.connection other ≠ .closed) (state : Connection) :
    (server.setConnection other state).Shut id where
  opened := shut.opened
  closed := by
    have different : id ≠ other := by
      rintro rfl
      exact alive shut.closed
    rw [connection_setConnection alive, if_neg different]
    exact shut.closed

/-- No kind of change opens a connection again. -/
theorem change {subject : Subject} (shut : server.Shut id) (change : Change subject server after) :
    after.Shut id := by
  cases change with
  | recount _ connections _ _ =>
    constructor
    · rw [connections]
      exact shut.opened
    · rw [connection, connections]
      exact shut.closed
  | createTable _ _ => exact ⟨shut.opened, shut.closed⟩
  | connect =>
    constructor
    · exact Nat.lt_succ_of_lt shut.opened
    · rw [connection_add, if_neg (Nat.ne_of_lt shut.opened)]
      exact shut.closed
  | @begin _ other ready =>
    have alive : server.connection other ≠ .closed := by simp [ready]
    have put := shut.setConnection alive (.inTransaction
      (.start server.secret server.transactions server.catalog))
    exact ⟨put.opened, put.closed⟩
  | leave alive _ => exact shut.setConnection alive _
  | @commit _ other _ held =>
    have alive : server.connection other ≠ .closed := by simp [held]
    have put := shut.setConnection alive .ready
    exact ⟨put.opened, put.closed⟩
  | release other =>
    refine ⟨shut.opened, ?_⟩
    rw [connection_release]
    split
    · rfl
    · exact shut.closed
  | @statement _ other alive _ _ _ _ _ _ _ =>
    cases connected : server.connection other with
    | closed => exact absurd connected alive
    | ready => exact ⟨shut.opened, shut.closed⟩
    | inTransaction transaction => exact shut.setConnection alive _
  | openPayload _ _ _ _ => exact ⟨shut.opened, shut.closed⟩
  | setHandle _ _ _ _ => exact ⟨shut.opened, shut.closed⟩
  | @writeCell _ _ handle _ _ _ held _ _ _ =>
    have alive : server.connection handle.connection ≠ .closed := by simp [held]
    exact shut.setConnection alive _
  | free _ => exact ⟨shut.opened, shut.closed⟩

/-- **A connection that is closed stays closed**, whatever is asked for. -/
theorem serve (shut : server.Shut id) (request : Request) : (request.serve server).Shut id :=
  keeps_changes (changes_serve server request) shut fun change shut => shut.change change

/-- It stays closed along any requests. -/
theorem serveAll (shut : server.Shut id) (requests : List Request) :
    (requests.foldl Request.serve server).Shut id :=
  List.foldlRecOn (motive := (Server.Shut · id)) requests Request.serve shut
    fun _ shut request _ => shut.serve request

end Shut

/-- On a connection nothing can be begun, ended, executed, queried or opened: all that this does is
to count a query. -/
structure Refuses (server : Server) (id : Nat) : Prop where
  beginTransaction : server.beginTransaction id = (.error .connectionClosed, server)
  commit : server.commit id = (.error .connectionClosed, server)
  rollback : server.rollback id = (.error .connectionClosed, server)
  execute : ∀ command, server.execute id command = (.error .connectionClosed, server)
  query : ∀ command, server.query id command = (.error .connectionClosed, server.countQuery)
  openPayload : ∀ path token access,
    server.openPayload id path token access = (.error .connectionClosed, server)

/-- A closed connection refuses everything. -/
theorem Shut.refuses {server : Server} {id : Nat} (shut : server.Shut id) : server.Refuses id := by
  have closed := shut.closed
  have counted : server.countQuery.connection id = .closed := closed
  constructor
  · simp only [Server.beginTransaction, closed]
  · simp only [Server.commit, closed]
  · simp only [Server.rollback, closed]
  · simp only [Server.execute, Server.run, closed, implies_true]
  · simp only [Server.query, Server.run, counted, implies_true]
  · simp only [Server.openPayload, closed, implies_true]

end Server

/-! ## Whole runs -/

/-- Along any requests that do not reset the counters the books stay in order. -/
theorem Audited.inOrder (secret : Bytes) {requests : List Request}
    (kept : Request.resetCounters ∉ requests) :
    (serveAll secret requests).books.InOrder (serveAll secret requests).server := by
  unfold serveAll
  generalize start : (⟨.ofSecret secret, .blank⟩ : Audited) = audited
  have order : audited.books.InOrder audited.server := by
    rw [← start]
    exact ⟨⟨fun _ => rfl, List.nodup_nil, fun _ taken => absurd rfl taken,
      by simp [Books.blank], by simp [Books.blank]⟩, ⟨rfl, rfl⟩⟩
  clear start
  induction requests generalizing audited with
  | nil => exact order
  | cons request rest inductionHypothesis =>
    rw [List.mem_cons, not_or] at kept
    have served := order.serve fun same => kept.1 same.symm
    exact inductionHypothesis kept.2 _ served

/-- What the seat of a connection says of its state and its transaction. -/
theorem Server.state_seat (server : Server) (id : Nat) :
    (server.seat id).state = server.connectionState id ∧
      ((server.seat id).state = .inTransaction ↔ (server.seat id).held.isSome) ∧
      ((server.seat id).state = .closed → (server.seat id).held = none) := by
  unfold seat connectionState
  cases server.connection id <;> simp [Connection.seat, Seat.vacant]

/-- A connection whose state is reported as closed is closed. -/
theorem Server.closed_of_state (server : Server) {id : Nat}
    (reported : server.connectionState id = .closed) : server.connection id = .closed := by
  unfold connectionState at reported
  cases connected : server.connection id with
  | closed => rfl
  | ready =>
    rw [connected] at reported
    cases reported
  | inTransaction transaction =>
    rw [connected] at reported
    cases reported

/-- **Accounts of transactions and connections.** After any requests to a new server that do not
reset its counters, whatever they are answered:

* a connection's state is what is kept of it by hand; it is in a transaction exactly if it holds
  one, and closed only if it holds none;
* the transactions begun are those committed, those rolled back, those that connections are in,
  and those that connections held when they were dropped;
* the connections opened and not counted as closed are those that were never closed;
* a connection that was opened and is closed stays closed, whatever is asked for from then on, and
  refuses everything, at most counting a query. -/
theorem accounts_balance (secret : Bytes) (requests : List Request)
    (kept : Request.resetCounters ∉ requests) :
    let server := (Audited.serveAll secret requests).server
    let books := (Audited.serveAll secret requests).books
    (∀ id, (books.seats id).state = server.connectionState id ∧
      ((books.seats id).state = .inTransaction ↔ (books.seats id).held.isSome) ∧
      ((books.seats id).state = .closed → (books.seats id).held = none)) ∧
    (books.opened.Nodup ∧ ∀ id, server.connectionState id ≠ .closed → id ∈ books.opened) ∧
    server.counters.begins = server.counters.commits + server.counters.rollbacks +
      books.opened.countP (fun id => server.connectionState id = .inTransaction) +
      books.dropped.length ∧
    server.counters.connectionsClosed ≤ server.counters.connectionsOpened ∧
    server.counters.connectionsOpened - server.counters.connectionsClosed =
      books.opened.countP (fun id => id ∉ books.closed) ∧
    ∀ id ∈ books.opened, server.connectionState id = .closed → ∀ later : List Request,
      (later.foldl Request.serve server).connectionState id = .closed ∧
        (later.foldl Request.serve server).Refuses id := by
  have order := Audited.inOrder secret kept
  generalize (Audited.serveAll secret requests).server = server at order
  generalize (Audited.serveAll secret requests).books = books at order
  have seats := order.agree.seats
  refine ⟨?_, ⟨order.agree.distinct, ?_⟩, ?_, ?_, ?_, ?_⟩
  · intro id
    rw [seats]
    exact server.state_seat id
  · intro id alive
    apply order.agree.listed
    rw [seats]
    intro vacant
    apply alive
    rw [← (server.state_seat id).1, vacant]
    rfl
  · have holding : books.holding =
        books.opened.countP fun id => server.connectionState id = .inTransaction := by
      apply List.countP_congr
      intro id _
      rw [seats, ← (server.state_seat id).1, ← (server.state_seat id).2.1, decide_eq_true_iff]
    rw [← holding]
    exact order.balance.transactions
  · rw [order.balance.connections]
    exact Nat.le_add_right _ _
  · rw [order.balance.connections, Nat.add_sub_cancel_left]
    rfl
  · intro id member closed later
    have shut : server.Shut id := ⟨order.agree.numbered id member, server.closed_of_state closed⟩
    have stays := shut.serveAll later
    refine ⟨?_, stays.refuses⟩
    rw [Server.connectionState, stays.closed]

end RowPayload.Engine

namespace RowPayload

/-! ## A connection that is dropped -/

namespace Sample

open Engine

/-- Three connections are opened. On the first one a commit fails, and it is closed within its next
transaction; the second one is dropped within its transaction; the third one is in one. -/
def losses : List Request :=
  [.connect settings, .connect settings, .connect settings, .beginTransaction 0,
    .beginTransaction 1, .refuseNextCommit, .commit 0, .beginTransaction 0, .close 0, .release 1,
    .beginTransaction 2]

end Sample

namespace Engine

/-- Of four transactions two were rolled back, one is in progress and one was lost with its
connection; of three connections one was closed. -/
theorem accounts_balance_losses :
    (Request.resetCounters ∉ Sample.losses) ∧
      (Audited.serveAll [1, 2, 3] Sample.losses).server.counters.account = ⟨4, 0, 2, 3, 1⟩ ∧
      (Audited.serveAll [1, 2, 3] Sample.losses).books.dropped = [1] ∧
      (Audited.serveAll [1, 2, 3] Sample.losses).server.counters.begins =
        (Audited.serveAll [1, 2, 3] Sample.losses).server.counters.commits +
        (Audited.serveAll [1, 2, 3] Sample.losses).server.counters.rollbacks +
        (Audited.serveAll [1, 2, 3] Sample.losses).books.opened.countP (fun id =>
          (Audited.serveAll [1, 2, 3] Sample.losses).server.connectionState id = .inTransaction) +
        (Audited.serveAll [1, 2, 3] Sample.losses).books.dropped.length := by
  have kept : Request.resetCounters ∉ Sample.losses := by simp [Sample.losses]
  exact ⟨kept, by decide +kernel, by decide +kernel,
    (accounts_balance [1, 2, 3] Sample.losses kept).2.2.1⟩

end Engine

end RowPayload
