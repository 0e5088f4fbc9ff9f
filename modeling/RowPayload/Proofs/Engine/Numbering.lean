import RowPayload.Proofs.Engine.Change

/-!
# The numbers of a server

Transactions, connections and payload handles are numbered in the order in which they came,
and a number is never used again. So a transaction that begins, a connection that is opened
and a handle that is opened differ from all there were before.
-/

namespace RowPayload.Engine.Server

/-- Every number in use was handed out. -/
structure Numbered (server : Server) : Prop where
  transactions : ∀ id transaction, server.connection id = .inTransaction transaction →
    transaction.number < server.transactions
  connections : ∀ id, server.connection id ≠ .closed → id < server.connections.next
  handles : ∀ number handle, server.handles.get? number = some handle →
    number < server.handles.next ∧ handle.transaction < server.transactions

namespace Numbered

variable {server after : Server}

/-- Only the connections, the handles and the number of transactions bear on numbering. -/
theorem of_eq (numbered : server.Numbered) (connections : after.connections = server.connections)
    (handles : after.handles = server.handles)
    (transactions : after.transactions = server.transactions) : after.Numbered where
  transactions := by
    have same (id : Nat) : after.connection id = server.connection id := by
      rw [connection, connection, connections]
    simpa only [same, transactions] using numbered.transactions
  connections := by
    have same (id : Nat) : after.connection id = server.connection id := by
      rw [connection, connection, connections]
    simpa only [same, connections] using numbered.connections
  handles := by
    simpa only [handles, transactions] using numbered.handles

/-- The connection that will be opened next is closed. -/
theorem connection_next (numbered : server.Numbered) :
    server.connection server.connections.next = .closed := by
  by_cases closed : server.connection server.connections.next = .closed
  · exact closed
  · exact absurd (numbered.connections _ closed) (Nat.lt_irrefl _)

/-- A connection that is open may be put into any state whose transaction, if any, has a
number that was handed out. -/
theorem setConnection (numbered : server.Numbered) {id : Nat}
    (alive : server.connection id ≠ .closed) {state : Connection}
    (held : ∀ transaction, state = .inTransaction transaction →
      transaction.number < server.transactions) : (server.setConnection id state).Numbered where
  transactions := by
    intro other transaction found
    rw [connection_setConnection alive] at found
    split at found
    · exact held transaction found
    · exact numbered.transactions other transaction found
  connections := by
    intro other stays
    show other < server.connections.next
    rw [connection_setConnection alive] at stays
    by_cases here : other = id
    · rw [here]
      exact numbered.connections id alive
    · rw [if_neg here] at stays
      exact numbered.connections other stays
  handles := numbered.handles

/-- A handle may change, if it stays in the transaction it was opened in. -/
theorem setHandle (numbered : server.Numbered) {number : Nat} {old new : Handle}
    (found : server.handles.get? number = some old) (same : new.transaction = old.transaction) :
    (server.setHandle number new).Numbered where
  transactions := numbered.transactions
  connections := numbered.connections
  handles := by
    intro other handle held
    show other < server.handles.next ∧ handle.transaction < server.transactions
    rcases Slots.get?_set_cases held with ⟨rfl, rfl⟩ | kept
    · rw [same]
      exact numbered.handles other old found
    · exact numbered.handles other handle kept

/-- More transactions may have begun. -/
theorem countUp (numbered : server.Numbered) {count : Nat} (more : server.transactions ≤ count) :
    Numbered { server with transactions := count } where
  transactions := fun id transaction held =>
    Nat.lt_of_lt_of_le (numbered.transactions id transaction held) more
  connections := numbered.connections
  handles := fun number handle found =>
    ⟨(numbered.handles number handle found).1,
      Nat.lt_of_lt_of_le (numbered.handles number handle found).2 more⟩

/-- A connection is opened under the next number. -/
theorem connect (numbered : server.Numbered) :
    Numbered { server with connections := (server.connections.add .ready).2 } where
  transactions := fun id transaction held =>
    numbered.transactions id transaction (inTransaction_of_add held)
  connections := by
    intro id alive
    show id < server.connections.next + 1
    rw [connection_add] at alive
    split at alive
    · omega
    · exact Nat.lt_succ_of_lt (numbered.connections id alive)
  handles := numbered.handles

/-- A released connection is in no transaction, and its number is not used again. -/
theorem release (numbered : server.Numbered) (id : Nat) : (server.release id).Numbered where
  transactions := fun other transaction held =>
    numbered.transactions other transaction (inTransaction_of_release held)
  connections := by
    intro other alive
    rw [connection_release] at alive
    split at alive
    · exact absurd rfl alive
    · exact numbered.connections other alive
  handles := numbered.handles

/-- A handle is opened under the next number, in a transaction that has begun. -/
theorem addHandle (numbered : server.Numbered) {new : Handle}
    (begun : new.transaction < server.transactions) :
    Numbered { server with handles := (server.handles.add new).2 } where
  transactions := numbered.transactions
  connections := numbered.connections
  handles := by
    intro number handle found
    show number < server.handles.next + 1 ∧ handle.transaction < server.transactions
    rcases Slots.get?_add_cases found with ⟨rfl, rfl⟩ | old
    · exact ⟨Nat.lt_succ_self _, begun⟩
    · have known := numbered.handles number handle old
      exact ⟨Nat.lt_succ_of_lt known.1, known.2⟩

/-- The number of a handle that is forgotten is not used again. -/
theorem free (numbered : server.Numbered) (number : Nat) :
    Numbered { server with handles := server.handles.free number } where
  transactions := numbered.transactions
  connections := numbered.connections
  handles := fun other handle held => numbered.handles other handle (Slots.get?_of_free held)

/-- Every kind of change keeps a server numbered. -/
theorem change {subject : Subject} (numbered : server.Numbered)
    (change : Change subject server after) : after.Numbered := by
  cases change with
  | recount _ connections handles transactions =>
    exact numbered.of_eq connections handles transactions
  | createTable table blank => exact numbered.of_eq rfl rfl rfl
  | connect => exact numbered.connect
  | @begin _ id ready =>
    have alive : server.connection id ≠ .closed := by simp [ready]
    have counted : Numbered { server with transactions := server.transactions + 1 } :=
      numbered.countUp (Nat.le_succ _)
    apply counted.setConnection alive
    rintro _ ⟨⟩
    exact Nat.lt_succ_self _
  | leave alive idle =>
    exact numbered.setConnection alive fun transaction held => absurd held (idle transaction)
  | @commit _ id _ held =>
    have alive : server.connection id ≠ .closed := by simp [held]
    have ended : (server.setConnection id .ready).Numbered :=
      numbered.setConnection alive fun _ equal => nomatch equal
    exact ended.of_eq rfl rfl rfl
  | release id => exact numbered.release id
  | @statement _ id alive _ _ _ _ file table _ =>
    cases connected : server.connection id with
    | closed => exact absurd connected alive
    | ready => exact numbered.of_eq rfl rfl rfl
    | inTransaction transaction =>
      apply numbered.setConnection alive
      rintro _ ⟨⟩
      exact numbered.transactions id transaction connected
  | openPayload held address content access =>
    exact numbered.addHandle (numbered.transactions _ _ held)
  | setHandle found _ transaction _ => exact numbered.setHandle found transaction
  | @writeCell _ _ handle transaction changed found held same _ written =>
    have alive : server.connection handle.connection ≠ .closed := by simp [held]
    apply numbered.setConnection alive
    rintro _ ⟨⟩
    have number : changed.number = transaction.number :=
      congrArg Prod.fst (Transaction.identity_writeCell? written)
    rw [number]
    exact numbered.transactions _ _ held
  | free number => exact numbered.free number

end Numbered

/-- **Reachable servers are numbered.** -/
theorem Reachable.numbered {server : Server} (reached : server.Reachable) : server.Numbered := by
  refine reached.of_changes ?_ fun change numbered => numbered.change change
  intro secret
  constructor
  case transactions =>
    intro id transaction held
    cases held
  case connections =>
    intro id alive
    exact absurd rfl alive
  case handles =>
    intro number handle found
    cases found

end RowPayload.Engine.Server
