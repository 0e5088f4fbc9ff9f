import RowPayload.Proofs.Engine.Numbering
import RowPayload.Proofs.Sample

/-!
# Transactions on their own

While a transaction goes on, other connections run statements, write payloads, commit and
roll back, and tables are created. None of this reaches the transaction: whoever works in it
gets the answers that he would get on a server where nobody else does anything. The proof
compares a server with another one that is alike as far as the transaction can tell. A
request of the transaction is answered alike by both and leaves them alike, and a request of
anybody else to one of them leaves them alike, too.
-/

namespace RowPayload

namespace Engine

/-! ## Working in a transaction -/

/-- Who works in a transaction: its connection, and the handles opened in it, in the order in
which they were opened. -/
structure Holder where
  id : Nat
  handles : List Nat

/-- What the holder of a transaction asks of a handle. -/
inductive PayloadRequest where
  | call (operation : FileOperation)
  | close
  | release
  | abilities
deriving DecidableEq

/-- What the holder of a transaction asks for. A handle is told by how many were opened
before it. -/
inductive OwnRequest where
  | execute (command : Command)
  | query (command : Command)
  | openPayload (path : String) (token : Bytes) (access : Access)
  | payload (place : Nat) (request : PayloadRequest)

/-- What the holder of a transaction is answered. A payload that is opened shows its
content. -/
inductive OwnAnswer where
  | affected (result : Except Failure Nat)
  | rows (result : Except Failure ResultSet)
  | opened (result : Except Failure (Option Bytes))
  | called (result : Except IoFault FileAnswer)
  | closed (result : Except IoFault Unit)
  | released
  | abilities (canRead canWrite : Bool)
  | noHandle

/-- Serve a request to a handle: the answer and the server afterwards. -/
def PayloadRequest.serve (server : Server) (number : Nat) : PayloadRequest → OwnAnswer × Server
  | .call operation =>
    let (result, after) := (operation.perform number).perform server
    (.called result, after)
  | .close =>
    let (result, after) := server.closePayload number
    (.closed result, after)
  | .release => (.released, server.releasePayload number)
  | .abilities => (.abilities (server.canReadPayload number) (server.canWritePayload number), server)

/-- Serve a request of the holder of a transaction: the answer, the server and the holder
afterwards. -/
def OwnRequest.serve (server : Server) (holder : Holder) :
    OwnRequest → OwnAnswer × Server × Holder
  | .execute command =>
    let (result, after) := server.execute holder.id command
    (.affected result, after, holder)
  | .query command =>
    let (result, after) := server.query holder.id command
    (.rows result, after, holder)
  | .openPayload path token access =>
    match server.openPayload holder.id path token access with
    | (.error failure, after) => (.opened (.error failure), after, holder)
    | (.ok number, after) =>
      (.opened (.ok ((after.handles.get? number).map fun handle => handle.file.content)), after,
        { holder with handles := holder.handles ++ [number] })
  | .payload place request =>
    match holder.handles[place]? with
    | none => (.noHandle, server, holder)
    | some number =>
      let (answer, after) := request.serve server number
      (answer, after, holder)

/-- Work on a subject is no work of the holder of a transaction. -/
def Subject.Foreign (holder : Holder) : Subject → Prop
  | .server => True
  | .connection id => id ≠ holder.id
  | .payload number => number ∉ holder.handles

/-- What happens on a server while a transaction goes on: requests of its holder with their
answers, and between them any requests of others. -/
inductive TransactionRun (start : Server) (holder : Holder) :
    List (OwnRequest × OwnAnswer) → Server → Holder → Prop where
  | start : TransactionRun start holder [] start holder
  | own {history : List (OwnRequest × OwnAnswer)} {server : Server} {current : Holder}
      (run : TransactionRun start holder history server current) (request : OwnRequest) :
      TransactionRun start holder (history ++ [(request, (request.serve server current).1)])
        (request.serve server current).2.1 (request.serve server current).2.2
  | other {history : List (OwnRequest × OwnAnswer)} {server : Server} {current : Holder}
      (run : TransactionRun start holder history server current) (request : Request)
      (foreign : request.subject.Foreign current) :
      TransactionRun start holder history (request.serve server) current

/-- Serve requests of the holder of a transaction with nobody else around. -/
def OwnRequest.serveAll (server : Server) (holder : Holder) :
    List OwnRequest → List (OwnRequest × OwnAnswer) × Server × Holder
  | [] => ([], server, holder)
  | request :: rest =>
    let (answer, after, later) := request.serve server holder
    let (history, last) := serveAll after later rest
    ((request, answer) :: history, last)

/-! ## Requests of others -/

/-- A transaction in progress and the handles opened in it. -/
structure Secluded (server : Server) (holder : Holder) (transaction : Transaction) : Prop where
  held : server.connection holder.id = .inTransaction transaction
  numbered : server.Numbered
  distinct : holder.handles.Nodup
  known : ∀ number ∈ holder.handles, number < server.handles.next
  /-- The holder's handles belong to the transaction. -/
  own : ∀ number ∈ holder.handles, ∀ handle, server.handles.get? number = some handle →
    handle.connection = holder.id ∧ handle.transaction = transaction.number
  /-- The handles that belong to the transaction are the holder's. -/
  all : ∀ number handle, server.handles.get? number = some handle →
    handle.connection = holder.id → handle.transaction = transaction.number →
    number ∈ holder.handles

namespace Secluded

variable {server after : Server} {holder : Holder} {transaction : Transaction}

/-- The connection of a transaction is open. -/
theorem alive (secluded : Secluded server holder transaction) :
    server.connection holder.id ≠ .closed := by
  simp [secluded.held]

/-- Only the state of the connection and the handles bear on a transaction. -/
theorem of_connection (secluded : Secluded server holder transaction) (numbered : after.Numbered)
    (connection : after.connection holder.id = server.connection holder.id)
    (handles : after.handles = server.handles) : Secluded after holder transaction where
  held := connection.trans secluded.held
  numbered := numbered
  distinct := secluded.distinct
  known := handles ▸ secluded.known
  own := handles ▸ secluded.own
  all := handles ▸ secluded.all

/-- A change to a handle of somebody else leaves the transaction as it is, if the handle stays
in the transaction it was opened in. -/
theorem of_handles (secluded : Secluded server holder transaction) (numbered : after.Numbered)
    (connections : after.connections = server.connections)
    (next : server.handles.next ≤ after.handles.next)
    (own : ∀ number ∈ holder.handles, after.handles.get? number = server.handles.get? number)
    (others : ∀ number handle, number ∉ holder.handles →
      after.handles.get? number = some handle → handle.connection = holder.id →
      handle.transaction ≠ transaction.number) : Secluded after holder transaction where
  held := by
    rw [← secluded.held, Server.connection, Server.connection, connections]
  numbered := numbered
  distinct := secluded.distinct
  known := fun number member => Nat.lt_of_lt_of_le (secluded.known number member) next
  own := by
    intro number member handle found
    rw [own number member] at found
    exact secluded.own number member handle found
  all := by
    intro number handle found connection same
    by_cases member : number ∈ holder.handles
    · exact member
    · exact absurd same (others number handle member found connection)

/-- Handles in different places have different numbers. -/
theorem different (secluded : Secluded server holder transaction) {place otherPlace : Nat}
    {number otherNumber : Nat} (here : holder.handles[place]? = some number)
    (otherHere : holder.handles[otherPlace]? = some otherNumber) (places : place ≠ otherPlace) :
    number ≠ otherNumber := by
  intro same
  obtain ⟨inside, -⟩ := List.getElem?_eq_some_iff.1 here
  exact places ((List.getElem?_inj inside secluded.distinct).1 (by rw [here, otherHere, same]))

/-- A transaction that goes on in its connection keeps its handles. -/
theorem goOn (secluded : Secluded server holder transaction) {later : Transaction}
    (same : later.number = transaction.number) :
    Secluded (server.setConnection holder.id (.inTransaction later)) holder later where
  held := by rw [Server.connection_setConnection secluded.alive, if_pos rfl]
  numbered := by
    apply secluded.numbered.setConnection secluded.alive
    rintro _ ⟨⟩
    rw [same]
    exact secluded.numbered.transactions holder.id transaction secluded.held
  distinct := secluded.distinct
  known := secluded.known
  own := by
    rw [same]
    exact secluded.own
  all := by
    rw [same]
    exact secluded.all

/-- A handle of the transaction may change, if it stays in the transaction. -/
theorem setHandle (secluded : Secluded server holder transaction) {number : Nat}
    (member : number ∈ holder.handles) {old new : Handle}
    (found : server.handles.get? number = some old) (connection : new.connection = old.connection)
    (same : new.transaction = old.transaction) :
    Secluded (server.setHandle number new) holder transaction where
  held := secluded.held
  numbered := secluded.numbered.setHandle found same
  distinct := secluded.distinct
  known := secluded.known
  own := by
    intro other otherMember handle held
    rcases Slots.get?_set_cases held with ⟨-, rfl⟩ | kept
    · rw [connection, same]
      exact secluded.own number member old found
    · exact secluded.own other otherMember handle kept
  all := by
    intro other handle held belongs sameTransaction
    rcases Slots.get?_set_cases held with ⟨rfl, -⟩ | kept
    · exact member
    · exact secluded.all other handle kept belongs sameTransaction

/-- A handle may be forgotten. -/
theorem free (secluded : Secluded server holder transaction) (number : Nat) :
    Secluded { server with handles := server.handles.free number } holder transaction where
  held := secluded.held
  numbered := secluded.numbered.free number
  distinct := secluded.distinct
  known := secluded.known
  own := fun other member handle held =>
    secluded.own other member handle (Slots.get?_of_free held)
  all := fun other handle held => secluded.all other handle (Slots.get?_of_free held)

/-- A handle opened in the transaction is a further one of its holder. -/
theorem addHandle (secluded : Secluded server holder transaction) (address : CellAddress)
    (content : Bytes) (access : Access) :
    Secluded { server with handles := (server.handles.add
        ⟨holder.id, transaction.number, address, .ofContent content, access, false, true⟩).2 }
      { holder with handles := holder.handles ++ [server.handles.next] } transaction where
  held := secluded.held
  numbered := secluded.numbered.addHandle
    (secluded.numbered.transactions holder.id transaction secluded.held)
  distinct := by
    have fresh : server.handles.next ∉ holder.handles := fun member =>
      Nat.lt_irrefl _ (secluded.known _ member)
    rw [List.nodup_append]
    refine ⟨secluded.distinct, List.nodup_cons.2 ⟨List.not_mem_nil, List.nodup_nil⟩, ?_⟩
    intro number member new isNew same
    rw [List.mem_singleton] at isNew
    exact fresh (isNew ▸ same ▸ member)
  known := by
    intro number member
    show number < server.handles.next + 1
    rcases List.mem_append.1 member with old | new
    · exact Nat.lt_succ_of_lt (secluded.known number old)
    · simp at new
      omega
  own := by
    intro number member handle found
    rw [Slots.get?_add] at found
    split at found
    · cases found
      exact ⟨rfl, rfl⟩
    · rename_i old
      have known : number ∈ holder.handles := by simpa [old] using member
      exact secluded.own number known handle found
  all := by
    intro number handle found belongs same
    rcases Slots.get?_add_cases found with ⟨rfl, -⟩ | old
    · simp
    · exact List.mem_append_left _ (secluded.all number handle old belongs same)

/-- A handle of somebody else is not in the transaction. -/
theorem other_transaction (secluded : Secluded server holder transaction) {number : Nat}
    (foreign : number ∉ holder.handles) {handle : Handle}
    (found : server.handles.get? number = some handle) (connection : handle.connection = holder.id) :
    handle.transaction ≠ transaction.number :=
  fun same => foreign (secluded.all number handle found connection same)

/-- A handle that another connection opens is not in the transaction. -/
theorem other_addHandle (secluded : Secluded server holder transaction) {new : Handle}
    (foreign : new.connection ≠ holder.id) (begun : new.transaction < server.transactions) :
    Secluded { server with handles := (server.handles.add new).2 } holder transaction := by
  refine secluded.of_handles (secluded.numbered.addHandle begun) rfl (Nat.le_succ _)
    (fun number member => Slots.get?_add_of_lt (secluded.known number member)) ?_
  intro number handle member found belongs
  rcases Slots.get?_add_cases found with ⟨-, rfl⟩ | old
  · exact absurd belongs foreign
  · exact secluded.other_transaction member old belongs

/-- A handle of somebody else may change, if it stays in the transaction it was opened in. -/
theorem other_setHandle (secluded : Secluded server holder transaction) {number : Nat}
    (foreign : number ∉ holder.handles) {old new : Handle}
    (found : server.handles.get? number = some old) (connection : new.connection = old.connection)
    (same : new.transaction = old.transaction) :
    Secluded (server.setHandle number new) holder transaction := by
  refine secluded.of_handles (secluded.numbered.setHandle found same) rfl (Nat.le_refl _)
    (fun other member => Slots.get?_set_of_ne (ne_of_mem_of_not_mem member foreign)) ?_
  intro other handle member held belongs
  rcases Slots.get?_set_cases held with ⟨rfl, rfl⟩ | kept
  · rw [same]
    exact secluded.other_transaction foreign found (connection ▸ belongs)
  · exact secluded.other_transaction member kept belongs

/-- What others do leaves a transaction and its handles as they are. -/
theorem other_change {subject : Subject} (secluded : Secluded server holder transaction)
    (foreign : subject.Foreign holder) (change : Change subject server after) :
    Secluded after holder transaction ∧
      ∀ number ∈ holder.handles, after.handles.get? number = server.handles.get? number := by
  have numbered : after.Numbered := secluded.numbered.change change
  have aside {id : Nat} (alive : server.connection id ≠ .closed) (different : id ≠ holder.id)
      (state : Connection) :
      (server.setConnection id state).connection holder.id = server.connection holder.id := by
    rw [Server.connection_setConnection alive, if_neg different.symm]
  cases change with
  | recount _ connections handles _ =>
    have same : after.connection holder.id = server.connection holder.id := by
      rw [Server.connection, Server.connection, connections]
    exact ⟨secluded.of_connection numbered same handles, fun _ _ => by rw [handles]⟩
  | createTable table blank => exact ⟨secluded.of_connection numbered rfl rfl, fun _ _ => rfl⟩
  | connect =>
    have different : holder.id ≠ server.connections.next :=
      Nat.ne_of_lt (secluded.numbered.connections holder.id secluded.alive)
    have same := Server.connection_add server holder.id
    rw [if_neg different] at same
    exact ⟨secluded.of_connection numbered same rfl, fun _ _ => rfl⟩
  | @begin _ id ready =>
    exact ⟨secluded.of_connection numbered (aside (by simp [ready]) foreign _) rfl, fun _ _ => rfl⟩
  | leave alive idle =>
    exact ⟨secluded.of_connection numbered (aside alive foreign _) rfl, fun _ _ => rfl⟩
  | commit held =>
    exact ⟨secluded.of_connection numbered (aside (by simp [held]) foreign _) rfl, fun _ _ => rfl⟩
  | release id =>
    have same : (server.release id).connection holder.id = server.connection holder.id := by
      rw [Server.connection_release, if_neg (Ne.symm foreign)]
    exact ⟨secluded.of_connection numbered same rfl, fun _ _ => rfl⟩
  | @statement _ id alive _ _ _ _ file table _ =>
    cases connected : server.connection id with
    | closed => exact absurd connected alive
    | ready =>
      rw [connected] at numbered
      exact ⟨secluded.of_connection numbered rfl rfl, fun _ _ => rfl⟩
    | inTransaction other =>
      rw [connected] at numbered
      exact ⟨secluded.of_connection numbered (aside alive foreign _) rfl, fun _ _ => rfl⟩
  | @openPayload _ id other held address content access =>
    exact ⟨secluded.other_addHandle foreign (secluded.numbered.transactions id other held),
      fun number member => Slots.get?_add_of_lt (secluded.known number member)⟩
  | setHandle found connection transaction _ =>
    exact ⟨secluded.other_setHandle foreign found connection transaction,
      fun _ member => Slots.get?_set_of_ne (ne_of_mem_of_not_mem member foreign)⟩
  | @writeCell _ number handle other changed found held same _ written =>
    have alive : server.connection handle.connection ≠ .closed := by simp [held]
    -- A handle on the holder's connection that can be written back is the holder's.
    have different : handle.connection ≠ holder.id := by
      intro here
      rw [here, secluded.held] at held
      cases held
      exact secluded.other_transaction foreign found here same.symm
    exact ⟨secluded.of_connection numbered (aside alive different _) rfl, fun _ _ => rfl⟩
  | free number =>
    exact ⟨secluded.free number,
      fun _ member => Slots.get?_free_of_ne (ne_of_mem_of_not_mem member foreign)⟩

/-- A request of somebody else leaves a transaction and its handles as they are. -/
theorem other (secluded : Secluded server holder transaction) {request : Request}
    (foreign : request.subject.Foreign holder) :
    Secluded (request.serve server) holder transaction ∧
      ∀ number ∈ holder.handles,
        (request.serve server).handles.get? number = server.handles.get? number := by
  refine Server.keeps_changes (Server.changes_serve server request)
    ⟨secluded, fun _ _ => rfl⟩ ?_
  rintro before later change ⟨reached, same⟩
  obtain ⟨last, kept⟩ := reached.other_change foreign change
  exact ⟨last, fun number member => (kept number member).trans (same number member)⟩

/-- A transaction that begins on a reachable server has no handles. -/
theorem begin (reached : server.Reachable) {id : Nat}
    (begun : (server.beginTransaction id).1 = .ok ()) :
    Secluded (server.beginTransaction id).2 ⟨id, []⟩
      (.start server.secret server.transactions server.catalog) := by
  have numbered := reached.numbered
  have later : (server.beginTransaction id).2.Numbered :=
    (reached.serve (.beginTransaction id)).numbered
  unfold Server.beginTransaction at begun later ⊢
  split at begun
  · cases begun
  · cases begun
  · rename_i ready
    split at begun
    · cases begun
    · rename_i granted
      simp only [ready, granted] at later ⊢
      have alive : server.connection id ≠ .closed := by simp [ready]
      constructor
      case held =>
        show (server.setConnection id _).connection id = _
        rw [Server.connection_setConnection alive, if_pos rfl]
      case numbered => exact later
      case distinct => exact List.nodup_nil
      case known =>
        intro number member
        cases member
      case own =>
        intro number member
        cases member
      case all =>
        intro number handle found _ same
        have before : handle.transaction < server.transactions :=
          (numbered.handles number handle found).2
        exact absurd same (Nat.ne_of_lt before)

end Secluded

/-! ## Servers that are alike for a transaction -/

/-- What executing a statement answers depends on what running it answers. -/
theorem Server.execute_answer {left right : Server} {id otherId : Nat} {command : Command}
    (same : (left.run id command).1 = (right.run otherId command).1) :
    (left.execute id command).1 = (right.execute otherId command).1 := by
  revert same
  unfold execute
  rcases left.run id command with ⟨answer, after⟩
  rcases right.run otherId command with ⟨otherAnswer, otherAfter⟩
  intro same
  obtain rfl : answer = otherAnswer := same
  rcases answer with failure | outcome
  · rfl
  · cases outcome <;> rfl

/-- What a query answers depends on what running it answers. -/
theorem Server.query_answer {left right : Server} {id otherId : Nat} {command : Command}
    (same : (left.countQuery.run id command).1 = (right.countQuery.run otherId command).1) :
    (left.query id command).1 = (right.query otherId command).1 := by
  revert same
  unfold query
  rcases left.countQuery.run id command with ⟨answer, after⟩
  rcases right.countQuery.run otherId command with ⟨otherAnswer, otherAfter⟩
  intro same
  obtain rfl : answer = otherAnswer := same
  rcases answer with failure | outcome
  · rfl
  · cases outcome <;> rfl

/-- A transaction on each of two servers cannot tell the one from the other: it has the same
token, sees and has changed the same tables, and has opened handles that differ in their
numbers only. -/
structure Alike (left : Server) (holder : Holder) (transaction : Transaction)
    (right : Server) (other : Holder) (counterpart : Transaction) : Prop where
  leftSecluded : Secluded left holder transaction
  rightSecluded : Secluded right other counterpart
  token : transaction.token = counterpart.token
  tables : transaction.table? = counterpart.table?
  changed : transaction.changed.get? = counterpart.changed.get?
  count : holder.handles.length = other.handles.length
  handles : ∀ place number otherNumber : Nat, holder.handles[place]? = some number →
    other.handles[place]? = some otherNumber →
    left.handles.get? number =
      (right.handles.get? otherNumber).map (·.moved holder.id transaction.number)

namespace Alike

variable {left right : Server} {holder other : Holder} {transaction counterpart : Transaction}

/-- Statements see the same on both servers. -/
theorem scene (alike : Alike left holder transaction right other counterpart)
    (parameters : List Parameter) :
    left.scene (.inTransaction transaction) parameters =
      right.scene (.inTransaction counterpart) parameters := by
  simp only [Server.scene, alike.tables, alike.token]

/-- Counting does not bear on whether servers are alike. -/
theorem count_both (alike : Alike left holder transaction right other counterpart)
    (change : Counters → Counters) :
    Alike (left.count change) holder transaction (right.count change) other counterpart where
  leftSecluded := alike.leftSecluded.of_connection (alike.leftSecluded.numbered.of_eq rfl rfl rfl) rfl rfl
  rightSecluded := alike.rightSecluded.of_connection (alike.rightSecluded.numbered.of_eq rfl rfl rfl) rfl rfl
  token := alike.token
  tables := alike.tables
  changed := alike.changed
  count := alike.count
  handles := alike.handles

/-- Counting a statement does not bear on whether servers are alike. -/
theorem countStatement (alike : Alike left holder transaction right other counterpart)
    (inserted updated : Nat) :
    Alike (left.countStatement inserted updated) holder transaction
      (right.countStatement inserted updated) other counterpart :=
  alike.count_both _

/-- Counting a query does not bear on whether servers are alike. -/
theorem countQuery (alike : Alike left holder transaction right other counterpart) :
    Alike left.countQuery holder transaction right.countQuery other counterpart :=
  alike.count_both _

/-- A table written by both transactions is written on both servers. -/
theorem writeTable (alike : Alike left holder transaction right other counterpart) (file : String)
    (table : Table) :
    Alike (left.setConnection holder.id (.inTransaction (transaction.writeTable file table))) holder
      (transaction.writeTable file table)
      (right.setConnection other.id (.inTransaction (counterpart.writeTable file table))) other
      (counterpart.writeTable file table) where
  leftSecluded := alike.leftSecluded.goOn rfl
  rightSecluded := alike.rightSecluded.goOn rfl
  token := alike.token
  tables := by
    funext name
    rw [Transaction.table?_writeTable, Transaction.table?_writeTable, alike.tables]
  changed := by
    funext name
    simp only [Transaction.writeTable, OrderedMap.get?_insert, alike.changed]
  count := alike.count
  handles := alike.handles

/-- A statement is answered alike and leaves the servers alike. -/
theorem run (alike : Alike left holder transaction right other counterpart) (command : Command) :
    (left.run holder.id command).1 = (right.run other.id command).1 ∧
      ∃ later otherLater, Alike (left.run holder.id command).2 holder later
        (right.run other.id command).2 other otherLater := by
  simp only [Server.run, alike.leftSecluded.held, alike.rightSecluded.held, Server.runOpen]
  cases Sql.parse command.sql with
  | error fault => exact ⟨rfl, transaction, counterpart, alike⟩
  | ok statement =>
    dsimp only
    rw [alike.scene]
    cases (right.scene (.inTransaction counterpart) command.parameters).run statement with
    | error failure =>
      refine ⟨rfl, transaction, counterpart, ?_⟩
      exact alike.countStatement 0 0
    | ok effect =>
      refine ⟨rfl, ?_⟩
      dsimp only
      cases effect.written with
      | none =>
        exact ⟨transaction, counterpart, alike.countStatement effect.inserted effect.updated⟩
      | some entry =>
        have written := alike.writeTable entry.1 entry.2
        exact ⟨_, _, written.countStatement effect.inserted effect.updated⟩

/-- The handles in a place, of which the right one is there. -/
theorem handle_left (alike : Alike left holder transaction right other counterpart) {place : Nat}
    {number otherNumber : Nat} (here : holder.handles[place]? = some number)
    (otherHere : other.handles[place]? = some otherNumber) {handle : Handle}
    (found : right.handles.get? otherNumber = some handle) :
    left.handles.get? number = some (handle.moved holder.id transaction.number) := by
  rw [alike.handles place number otherNumber here otherHere, found]
  rfl

/-- The handles in a place, of which the right one is gone. -/
theorem handle_gone (alike : Alike left holder transaction right other counterpart) {place : Nat}
    {number otherNumber : Nat} (here : holder.handles[place]? = some number)
    (otherHere : other.handles[place]? = some otherNumber)
    (gone : right.handles.get? otherNumber = none) : left.handles.get? number = none := by
  rw [alike.handles place number otherNumber here otherHere, gone]
  rfl

/-- Handles in one place are those of another place on both servers, or on neither. -/
theorem same_place (alike : Alike left holder transaction right other counterpart)
    {place otherPlace : Nat} {number otherNumber first second : Nat}
    (here : holder.handles[place]? = some number)
    (otherHere : other.handles[place]? = some otherNumber)
    (firstHere : holder.handles[otherPlace]? = some first)
    (secondHere : other.handles[otherPlace]? = some second) :
    first = number ∧ second = otherNumber ∨ first ≠ number ∧ second ≠ otherNumber := by
  by_cases samePlace : otherPlace = place
  · subst samePlace
    exact .inl ⟨Option.some.inj (firstHere.symm.trans here),
      Option.some.inj (secondHere.symm.trans otherHere)⟩
  · exact .inr ⟨alike.leftSecluded.different firstHere here samePlace,
      alike.rightSecluded.different secondHere otherHere samePlace⟩

/-- A handle of the transactions may change on both servers alike. -/
theorem setHandle (alike : Alike left holder transaction right other counterpart) {place : Nat}
    {number otherNumber : Nat} (here : holder.handles[place]? = some number)
    (otherHere : other.handles[place]? = some otherNumber) {old : Handle}
    (found : right.handles.get? otherNumber = some old) (new : Handle)
    (connection : new.connection = old.connection) (same : new.transaction = old.transaction) :
    Alike (left.setHandle number (new.moved holder.id transaction.number)) holder transaction
      (right.setHandle otherNumber new) other counterpart where
  leftSecluded := alike.leftSecluded.setHandle (List.mem_of_getElem? here)
    (alike.handle_left here otherHere found) rfl rfl
  rightSecluded := alike.rightSecluded.setHandle (List.mem_of_getElem? otherHere) found
    connection same
  token := alike.token
  tables := alike.tables
  changed := alike.changed
  count := alike.count
  handles := by
    intro otherPlace first second firstHere secondHere
    show (left.handles.set number _).get? first =
      ((right.handles.set otherNumber new).get? second).map _
    rcases alike.same_place here otherHere firstHere secondHere with
      ⟨rfl, rfl⟩ | ⟨different, otherDifferent⟩
    · rw [Slots.get?_set, Slots.get?_set, if_pos rfl, if_pos rfl,
        alike.handle_left here otherHere found, found]
      rfl
    · rw [Slots.get?_set_of_ne different, Slots.get?_set_of_ne otherDifferent]
      exact alike.handles otherPlace first second firstHere secondHere

/-- Work on a handle is answered alike and leaves the servers alike. -/
theorem onHandle (alike : Alike left holder transaction right other counterpart) {place : Nat}
    {number otherNumber : Nat} (here : holder.handles[place]? = some number)
    (otherHere : other.handles[place]? = some otherNumber) {α : Type}
    {work : Handle → Except IoFault (α × Handle)} (blind : Handle.Blind work) :
    (left.onHandle number work).1 = (right.onHandle otherNumber work).1 ∧
      Alike (left.onHandle number work).2 holder transaction
        (right.onHandle otherNumber work).2 other counterpart := by
  unfold Server.onHandle
  cases found : right.handles.get? otherNumber with
  | none =>
    rw [alike.handle_gone here otherHere found]
    exact ⟨rfl, alike⟩
  | some handle =>
    rw [alike.handle_left here otherHere found]
    dsimp only
    rw [blind.moved handle holder.id transaction.number]
    cases worked : work handle with
    | error fault => exact ⟨rfl, alike⟩
    | ok result =>
      obtain ⟨answer, after⟩ := result
      obtain ⟨connection, same⟩ := blind.stays worked
      exact ⟨rfl, alike.setHandle here otherHere found after connection same⟩

/-- Both transactions write the same cell, or neither does. -/
theorem writeCell? (alike : Alike left holder transaction right other counterpart)
    (address : CellAddress) (value : Value) :
    (transaction.writeCell? address value = none ∧ counterpart.writeCell? address value = none) ∨
      ∃ table, transaction.writeCell? address value =
          some (transaction.writeTable address.table table) ∧
        counterpart.writeCell? address value =
          some (counterpart.writeTable address.table table) := by
  simp only [Transaction.writeCell?, alike.tables]
  cases counterpart.table? address.table with
  | none => exact .inl ⟨rfl, rfl⟩
  | some table =>
    cases found : table.row? address.row with
    | none => simp [found]
    | some row => exact .inr ⟨table.setCell row.id address.column value, by simp [found], by simp [found]⟩

/-- Writing a handle back is answered alike and leaves the servers alike. -/
theorem writeBack (alike : Alike left holder transaction right other counterpart) {place : Nat}
    {number otherNumber : Nat} (here : holder.handles[place]? = some number)
    (otherHere : other.handles[place]? = some otherNumber) {handle : Handle}
    (found : right.handles.get? otherNumber = some handle) :
    (left.writeBack number (handle.moved holder.id transaction.number)).1 =
        (right.writeBack otherNumber handle).1 ∧
      ∃ later otherLater,
        Alike (left.writeBack number (handle.moved holder.id transaction.number)).2 holder later
          (right.writeBack otherNumber handle).2 other otherLater := by
  obtain ⟨connection, same⟩ :=
    alike.rightSecluded.own otherNumber (List.mem_of_getElem? otherHere) handle found
  have leftActive : left.transactionOf? (handle.moved holder.id transaction.number) =
      some transaction := by
    simp [Server.transactionOf?, Handle.moved, alike.leftSecluded.held]
  have rightActive : right.transactionOf? handle = some counterpart := by
    simp [Server.transactionOf?, connection, same, alike.rightSecluded.held]
  unfold Server.writeBack
  rw [leftActive, rightActive]
  by_cases dirty : handle.dirty
  · have moved : (handle.moved holder.id transaction.number).dirty = true := dirty
    simp only [dirty, moved, not_true_eq_false, if_false]
    have address : (handle.moved holder.id transaction.number).address = handle.address := rfl
    have file : (handle.moved holder.id transaction.number).file = handle.file := rfl
    rw [address, file]
    rcases alike.writeCell? handle.address (.bytes handle.file.content) with
      ⟨gone, otherGone⟩ | ⟨table, wrote, otherWrote⟩
    · rw [gone, otherGone]
      exact ⟨rfl, transaction, counterpart, alike⟩
    · rw [wrote, otherWrote, connection]
      have written := alike.writeTable handle.address.table table
      have clean := written.setHandle here otherHere found { handle with dirty := false } rfl rfl
      rw [connection] at clean
      exact ⟨rfl, _, _, clean⟩
  · have moved : ¬ (handle.moved holder.id transaction.number).dirty = true := dirty
    rw [if_pos moved, if_pos dirty]
    exact ⟨rfl, transaction, counterpart, alike⟩

/-- Flushing a handle is answered alike and leaves the servers alike. -/
theorem flushPayload (alike : Alike left holder transaction right other counterpart) {place : Nat}
    {number otherNumber : Nat} (here : holder.handles[place]? = some number)
    (otherHere : other.handles[place]? = some otherNumber) :
    (left.flushPayload number).1 = (right.flushPayload otherNumber).1 ∧
      ∃ later otherLater, Alike (left.flushPayload number).2 holder later
        (right.flushPayload otherNumber).2 other otherLater := by
  unfold Server.flushPayload
  cases found : right.handles.get? otherNumber with
  | none =>
    rw [alike.handle_gone here otherHere found]
    exact ⟨rfl, transaction, counterpart, alike⟩
  | some handle =>
    rw [alike.handle_left here otherHere found]
    have sameOpen : (handle.moved holder.id transaction.number).isOpen = handle.isOpen := rfl
    dsimp only
    rw [sameOpen]
    split
    · exact alike.writeBack here otherHere found
    · exact ⟨rfl, transaction, counterpart, alike⟩

/-- Closing a handle is answered alike and leaves the servers alike. -/
theorem closePayload (alike : Alike left holder transaction right other counterpart) {place : Nat}
    {number otherNumber : Nat} (here : holder.handles[place]? = some number)
    (otherHere : other.handles[place]? = some otherNumber) :
    (left.closePayload number).1 = (right.closePayload otherNumber).1 ∧
      ∃ later otherLater, Alike (left.closePayload number).2 holder later
        (right.closePayload otherNumber).2 other otherLater := by
  unfold Server.closePayload
  cases found : right.handles.get? otherNumber with
  | none =>
    rw [alike.handle_gone here otherHere found]
    exact ⟨rfl, transaction, counterpart, alike⟩
  | some handle =>
    rw [alike.handle_left here otherHere found]
    have sameOpen : (handle.moved holder.id transaction.number).isOpen = handle.isOpen := rfl
    dsimp only
    rw [sameOpen]
    split
    · have closed := alike.setHandle here otherHere found { handle with isOpen := false } rfl rfl
      have kept : (right.setHandle otherNumber { handle with isOpen := false }).handles.get?
          otherNumber = some { handle with isOpen := false } := Server.get?_setHandle found _
      exact closed.writeBack here otherHere kept
    · exact ⟨rfl, transaction, counterpart, alike⟩

/-- Forgetting a handle leaves the servers alike. -/
theorem free (alike : Alike left holder transaction right other counterpart) {place : Nat}
    {number otherNumber : Nat} (here : holder.handles[place]? = some number)
    (otherHere : other.handles[place]? = some otherNumber) :
    Alike { left with handles := left.handles.free number } holder transaction
      { right with handles := right.handles.free otherNumber } other counterpart where
  leftSecluded := alike.leftSecluded.free number
  rightSecluded := alike.rightSecluded.free otherNumber
  token := alike.token
  tables := alike.tables
  changed := alike.changed
  count := alike.count
  handles := by
    intro otherPlace first second firstHere secondHere
    show (left.handles.free number).get? first =
      ((right.handles.free otherNumber).get? second).map _
    rcases alike.same_place here otherHere firstHere secondHere with
      ⟨rfl, rfl⟩ | ⟨different, otherDifferent⟩
    · rw [Slots.get?_free, Slots.get?_free, if_pos rfl, if_pos rfl]
      rfl
    · rw [Slots.get?_free_of_ne different, Slots.get?_free_of_ne otherDifferent]
      exact alike.handles otherPlace first second firstHere secondHere

/-- A handle opened in both transactions is a further one of each holder. -/
theorem addHandle (alike : Alike left holder transaction right other counterpart)
    (address : CellAddress) (content : Bytes) (access : Access) :
    Alike { left with handles := (left.handles.add
        ⟨holder.id, transaction.number, address, .ofContent content, access, false, true⟩).2 }
      { holder with handles := holder.handles ++ [left.handles.next] } transaction
      { right with handles := (right.handles.add
        ⟨other.id, counterpart.number, address, .ofContent content, access, false, true⟩).2 }
      { other with handles := other.handles ++ [right.handles.next] } counterpart where
  leftSecluded := alike.leftSecluded.addHandle address content access
  rightSecluded := alike.rightSecluded.addHandle address content access
  token := alike.token
  tables := alike.tables
  changed := alike.changed
  count := by simp [alike.count]
  handles := by
    intro place first second firstHere secondHere
    simp only at firstHere secondHere ⊢
    rw [Slots.get?_add, Slots.get?_add]
    rw [List.getElem?_append] at firstHere secondHere
    by_cases before : place < holder.handles.length
    · rw [if_pos before] at firstHere
      rw [if_pos (alike.count ▸ before)] at secondHere
      have old := alike.leftSecluded.known first (List.mem_of_getElem? firstHere)
      have otherOld := alike.rightSecluded.known second (List.mem_of_getElem? secondHere)
      rw [if_neg (Nat.ne_of_lt old), if_neg (Nat.ne_of_lt otherOld)]
      exact alike.handles place first second firstHere secondHere
    · rw [if_neg before] at firstHere
      rw [if_neg (alike.count ▸ before)] at secondHere
      have firstNew : first = left.handles.next := by
        have member := List.mem_of_getElem? firstHere
        simpa using member
      have secondNew : second = right.handles.next := by
        have member := List.mem_of_getElem? secondHere
        simpa using member
      rw [if_pos firstNew, if_pos secondNew]
      rfl

/-- A request to a handle is answered alike and leaves the servers alike. -/
theorem servePayload (alike : Alike left holder transaction right other counterpart) {place : Nat}
    {number otherNumber : Nat} (here : holder.handles[place]? = some number)
    (otherHere : other.handles[place]? = some otherNumber) (request : PayloadRequest) :
    (request.serve left number).1 = (request.serve right otherNumber).1 ∧
      ∃ later otherLater, Alike (request.serve left number).2 holder later
        (request.serve right otherNumber).2 other otherLater := by
  have worked {α : Type} {work : Handle → Except IoFault (α × Handle)} (blind : Handle.Blind work)
      (convert : α → FileAnswer) :
      OwnAnswer.called ((left.onHandle number work).1.map convert) =
          .called ((right.onHandle otherNumber work).1.map convert) ∧
        ∃ later otherLater, Alike (left.onHandle number work).2 holder later
          (right.onHandle otherNumber work).2 other otherLater := by
    obtain ⟨same, still⟩ := alike.onHandle here otherHere blind
    rw [same]
    exact ⟨rfl, transaction, counterpart, still⟩
  cases request with
  | call operation =>
    simp only [PayloadRequest.serve]
    cases operation <;> simp only [FileOperation.perform, Work.perform_map]
    case read count => exact worked (Handle.blind_read count) .bytes
    case write data => exact worked (Handle.blind_write data) .number
    case seek destination => exact worked (Handle.blind_seek destination) .number
    case setLength size => exact worked (Handle.blind_setLength size) fun _ => .done
    case flush =>
      obtain ⟨same, still⟩ := alike.flushPayload here otherHere
      exact ⟨congrArg (fun result => OwnAnswer.called (result.map fun _ => .done)) same, still⟩
    case position => exact worked (Handle.blind_seek (.fromCurrent 0)) .number
    case length =>
      have same : left.payloadLength number = right.payloadLength otherNumber := by
        simp only [Server.payloadLength, alike.handles place number otherNumber here otherHere,
          Option.map_map]
        rfl
      refine ⟨?_, transaction, counterpart, alike⟩
      exact congrArg (fun length => OwnAnswer.called (.ok (.number length))) same
  | close =>
    obtain ⟨same, still⟩ := alike.closePayload here otherHere
    exact ⟨congrArg OwnAnswer.closed same, still⟩
  | release =>
    obtain ⟨-, later, otherLater, still⟩ := alike.closePayload here otherHere
    exact ⟨rfl, later, otherLater, still.free here otherHere⟩
  | abilities =>
    have canRead : left.canReadPayload number = right.canReadPayload otherNumber := by
      simp only [Server.canReadPayload, alike.handles place number otherNumber here otherHere,
        Option.any_map]
      rfl
    have canWrite : left.canWritePayload number = right.canWritePayload otherNumber := by
      simp only [Server.canWritePayload, alike.handles place number otherNumber here otherHere,
        Option.any_map]
      rfl
    simp only [PayloadRequest.serve, canRead, canWrite]
    exact ⟨trivial, transaction, counterpart, alike⟩

/-- **A request of a transaction is answered alike on servers that are alike for it, and leaves
them alike.** -/
theorem serve (alike : Alike left holder transaction right other counterpart)
    (request : OwnRequest) :
    (request.serve left holder).1 = (request.serve right other).1 ∧
      ∃ later otherLater, Alike (request.serve left holder).2.1 (request.serve left holder).2.2 later
        (request.serve right other).2.1 (request.serve right other).2.2 otherLater := by
  cases request with
  | execute command =>
    obtain ⟨same, still⟩ := alike.run command
    rw [← Server.execute_snd, ← Server.execute_snd] at still
    exact ⟨congrArg OwnAnswer.affected (Server.execute_answer same), still⟩
  | query command =>
    obtain ⟨same, still⟩ := alike.countQuery.run command
    rw [← Server.query_snd, ← Server.query_snd] at still
    exact ⟨congrArg OwnAnswer.rows (Server.query_answer same), still⟩
  | openPayload path token access =>
    have led : transaction.payload? path = counterpart.payload? path := by
      simp only [Transaction.payload?, alike.tables]
    simp only [OwnRequest.serve, Server.openPayload, alike.leftSecluded.held,
      alike.rightSecluded.held, alike.token, led]
    by_cases mismatch : token ≠ counterpart.token
    · rw [if_pos mismatch, if_pos mismatch]
      exact ⟨rfl, transaction, counterpart, alike⟩
    · rw [if_neg mismatch, if_neg mismatch]
      cases counterpart.payload? path with
      | none => exact ⟨rfl, transaction, counterpart, alike⟩
      | some found =>
        obtain ⟨address, content⟩ := found
        have opened := alike.addHandle address content access
        refine ⟨?_, transaction, counterpart, ?_⟩
        · simp [Server.count, Slots.add, Slots.get?]
        · dsimp only
          exact opened.count_both _
  | payload place request =>
    simp only [OwnRequest.serve]
    cases here : holder.handles[place]? with
    | none =>
      have otherwise : other.handles[place]? = none := by
        rw [List.getElem?_eq_none_iff, ← alike.count, ← List.getElem?_eq_none_iff, here]
      rw [otherwise]
      exact ⟨rfl, transaction, counterpart, alike⟩
    | some number =>
      cases otherHere : other.handles[place]? with
      | none =>
        rw [List.getElem?_eq_none_iff, ← alike.count, ← List.getElem?_eq_none_iff, here] at otherHere
        cases otherHere
      | some otherNumber => exact alike.servePayload here otherHere request

/-- What others do to one of two servers leaves them alike. -/
theorem serveOther (alike : Alike left holder transaction right other counterpart) {request : Request}
    (foreign : request.subject.Foreign holder) :
    Alike (request.serve left) holder transaction right other counterpart := by
  obtain ⟨secluded, kept⟩ := alike.leftSecluded.other foreign
  constructor
  case leftSecluded => exact secluded
  case rightSecluded => exact alike.rightSecluded
  case token => exact alike.token
  case tables => exact alike.tables
  case changed => exact alike.changed
  case count => exact alike.count
  case handles =>
    intro place number otherNumber here otherHere
    rw [kept number (List.mem_of_getElem? here)]
    exact alike.handles place number otherNumber here otherHere

/-- Transactions that begin with the same token and the same committed tables are alike. -/
theorem begin {id otherId : Nat} (leftReached : left.Reachable) (rightReached : right.Reachable)
    (leftBegun : (left.beginTransaction id).1 = .ok ())
    (rightBegun : (right.beginTransaction otherId).1 = .ok ())
    (committed : ∀ name, left.catalog.get? name = right.catalog.get? name)
    (tokens : Transaction.tokenOf left.secret left.transactions =
      Transaction.tokenOf right.secret right.transactions) :
    Alike (left.beginTransaction id).2 ⟨id, []⟩
      (.start left.secret left.transactions left.catalog)
      (right.beginTransaction otherId).2 ⟨otherId, []⟩
      (.start right.secret right.transactions right.catalog) where
  leftSecluded := .begin leftReached leftBegun
  rightSecluded := .begin rightReached rightBegun
  token := tokens
  tables := by
    funext name
    exact committed name
  changed := rfl
  count := rfl
  handles := by
    intro place number otherNumber here
    cases here

end Alike

/-! ## Runs -/

/-- The holder of a transaction stays on his connection. -/
theorem OwnRequest.serve_id (request : OwnRequest) (server : Server) (holder : Holder) :
    (request.serve server holder).2.2.id = holder.id := by
  cases request with
  | execute command => rfl
  | query command => rfl
  | openPayload path token access =>
    simp only [serve]
    rcases server.openPayload holder.id path token access with ⟨result, after⟩
    cases result <;> rfl
  | payload place request =>
    simp only [serve]
    cases holder.handles[place]? <;> rfl

/-- Whatever happens during a transaction, its holder stays on his connection. -/
theorem TransactionRun.id_eq {start last : Server} {holder current : Holder}
    {history : List (OwnRequest × OwnAnswer)}
    (run : TransactionRun start holder history last current) : current.id = holder.id := by
  induction run with
  | start => rfl
  | own _ request inductionHypothesis => exact (request.serve_id _ _).trans inductionHypothesis
  | other _ _ _ inductionHypothesis => exact inductionHypothesis

/-- Serving one request more. -/
theorem OwnRequest.serveAll_append (server : Server) (holder : Holder) (requests : List OwnRequest)
    (request : OwnRequest) :
    serveAll server holder (requests ++ [request]) =
      let (history, after, later) := serveAll server holder requests
      let (answer, last) := request.serve after later
      (history ++ [(request, answer)], last) := by
  induction requests generalizing server holder with
  | nil => rfl
  | cons first rest inductionHypothesis =>
    simp only [List.cons_append, serveAll, inductionHypothesis]

/-- The requests that are served are those asked for. -/
theorem OwnRequest.map_fst_serveAll (server : Server) (holder : Holder)
    (requests : List OwnRequest) :
    (serveAll server holder requests).1.map Prod.fst = requests := by
  induction requests generalizing server holder with
  | nil => rfl
  | cons request rest inductionHypothesis =>
    simp only [serveAll, List.map_cons, inductionHypothesis]

/-- The holder of a transaction may go on on his own. -/
theorem TransactionRun.ownAll {start server : Server} {holder current : Holder}
    {history : List (OwnRequest × OwnAnswer)}
    (run : TransactionRun start holder history server current) (requests : List OwnRequest) :
    TransactionRun start holder (history ++ (OwnRequest.serveAll server current requests).1)
      (OwnRequest.serveAll server current requests).2.1
      (OwnRequest.serveAll server current requests).2.2 := by
  induction requests generalizing history server current with
  | nil =>
    show TransactionRun start holder (history ++ []) server current
    rwa [List.append_nil]
  | cons request rest inductionHypothesis =>
    have longer := inductionHypothesis (run.own request)
    rwa [List.append_assoc] at longer

/-- **During a transaction its holder is answered as on a server that is alike at the beginning
and where nobody else does anything.** The induction is on the run. A request of the holder
is served on both servers, one of somebody else on the busy one only. -/
theorem TransactionRun.alone {start last quiet : Server} {holder current other : Holder}
    {transaction counterpart : Transaction} {history : List (OwnRequest × OwnAnswer)}
    (run : TransactionRun start holder history last current)
    (alike : Alike start holder transaction quiet other counterpart) :
    (OwnRequest.serveAll quiet other (history.map Prod.fst)).1 = history ∧
      ∃ later otherLater, Alike last current later
        (OwnRequest.serveAll quiet other (history.map Prod.fst)).2.1
        (OwnRequest.serveAll quiet other (history.map Prod.fst)).2.2 otherLater := by
  induction run with
  | start => exact ⟨rfl, transaction, counterpart, alike⟩
  | own _ request inductionHypothesis =>
    obtain ⟨answers, later, otherLater, stillAlike⟩ := inductionHypothesis
    obtain ⟨answer, last⟩ := stillAlike.serve request
    rw [List.map_append, List.map_singleton, OwnRequest.serveAll_append]
    dsimp only
    rw [answers, ← answer]
    exact ⟨rfl, last⟩
  | other _ request foreign inductionHypothesis =>
    obtain ⟨answers, later, otherLater, stillAlike⟩ := inductionHypothesis
    exact ⟨answers, later, otherLater, stillAlike.serveOther foreign⟩

/-- **Transactions are isolated.** Two transactions begin on reachable servers, with the same
committed tables and the same token. What else happens on the servers until they end may
differ in any way. If the holders ask for the same, they are answered the same, and in the
end they see the same tables and have changed the same. -/
theorem transaction_isolated {left right leftLast rightLast : Server} {id otherId : Nat}
    {holder other : Holder} {history otherHistory : List (OwnRequest × OwnAnswer)}
    (leftReached : left.Reachable) (rightReached : right.Reachable)
    (leftBegun : (left.beginTransaction id).1 = .ok ())
    (rightBegun : (right.beginTransaction otherId).1 = .ok ())
    (committed : ∀ name, left.catalog.get? name = right.catalog.get? name)
    (tokens : Transaction.tokenOf left.secret left.transactions =
      Transaction.tokenOf right.secret right.transactions)
    (leftRun : TransactionRun (left.beginTransaction id).2 ⟨id, []⟩ history leftLast holder)
    (rightRun : TransactionRun (right.beginTransaction otherId).2 ⟨otherId, []⟩ otherHistory
      rightLast other)
    (requests : history.map Prod.fst = otherHistory.map Prod.fst) :
    history = otherHistory ∧ ∃ transaction counterpart,
      leftLast.connection id = .inTransaction transaction ∧
      rightLast.connection otherId = .inTransaction counterpart ∧
      ∀ name, transaction.table? name = counterpart.table? name ∧
        transaction.changed.get? name = counterpart.changed.get? name := by
  -- Both runs are compared with the run on the right server where nobody else does anything.
  have leftAlike := Alike.begin leftReached rightReached leftBegun rightBegun committed tokens
  have rightAlike := Alike.begin rightReached rightReached rightBegun rightBegun (fun _ => rfl) rfl
  obtain ⟨leftAnswers, transaction, quiet, leftEnd⟩ := leftRun.alone leftAlike
  obtain ⟨rightAnswers, counterpart, otherQuiet, rightEnd⟩ := rightRun.alone rightAlike
  rw [requests] at leftAnswers leftEnd
  have sameQuiet : quiet = otherQuiet := by
    have held := leftEnd.rightSecluded.held
    rw [rightEnd.rightSecluded.held] at held
    exact (Connection.inTransaction.inj held).symm
  subst sameQuiet
  refine ⟨leftAnswers.symm.trans rightAnswers, transaction, counterpart, ?_, ?_, ?_⟩
  · have held := leftEnd.leftSecluded.held
    rwa [leftRun.id_eq] at held
  · have held := rightEnd.leftSecluded.held
    rwa [rightRun.id_eq] at held
  · intro name
    constructor
    · rw [leftEnd.tables, rightEnd.tables]
    · rw [leftEnd.changed, rightEnd.changed]

end Engine

namespace Sample

open Engine

/-- A transaction has begun on the first of two connections. -/
def begun : Server := (paired.beginTransaction 0).2

/-- Then two recordings were inserted on the second one. -/
def disturbed : Server :=
  ((begun.execute 1 (insertion 8)).2.execute 1 (insertion 9)).2

/-- Insert a recording, write its sound and look it up. -/
def recordingRequests : List OwnRequest :=
  [.execute (insertion 7),
    .openPayload "\\\\memory\\Recordings\\1" (Transaction.tokenOf [1, 2, 3] 0) .readWrite,
    .payload 0 (.call (.write [1, 2])), .payload 0 .close,
    .query (.ofText "SELECT [Sound] FROM Recordings")]

/-- The recording is inserted and written where nobody disturbs. -/
def undisturbedEnd : List (OwnRequest × OwnAnswer) × Server × Holder :=
  OwnRequest.serveAll begun ⟨0, []⟩ recordingRequests

/-- The recording is inserted and written where other recordings were inserted. -/
def disturbedEnd : List (OwnRequest × OwnAnswer) × Server × Holder :=
  OwnRequest.serveAll disturbed ⟨0, []⟩ recordingRequests

end Sample

namespace Engine

/-- Two recordings that another connection inserts do not disturb a transaction that inserts
one and writes its sound: it is answered as if nothing had happened. -/
theorem transaction_isolated_recording :
    ∃ transaction counterpart,
      Sample.paired.Reachable ∧ (Sample.paired.beginTransaction 0).1 = .ok () ∧
      TransactionRun Sample.begun ⟨0, []⟩ Sample.undisturbedEnd.1 Sample.undisturbedEnd.2.1
        Sample.undisturbedEnd.2.2 ∧
      TransactionRun Sample.begun ⟨0, []⟩ Sample.disturbedEnd.1 Sample.disturbedEnd.2.1
        Sample.disturbedEnd.2.2 ∧
      Sample.undisturbedEnd.1 = Sample.disturbedEnd.1 ∧
      Sample.undisturbedEnd.2.1.connection 0 = .inTransaction transaction ∧
      Sample.disturbedEnd.2.1.connection 0 = .inTransaction counterpart ∧
      (∀ name, transaction.table? name = counterpart.table? name ∧
        transaction.changed.get? name = counterpart.changed.get? name) ∧
      Sample.undisturbedEnd.2.1.rowCount "Recordings" = 0 ∧
      Sample.disturbedEnd.2.1.rowCount "Recordings" = 2 := by
  have begun : (Sample.paired.beginTransaction 0).1 = .ok () := rfl
  have undisturbed : TransactionRun Sample.begun ⟨0, []⟩ Sample.undisturbedEnd.1
      Sample.undisturbedEnd.2.1 Sample.undisturbedEnd.2.2 :=
    TransactionRun.ownAll .start Sample.recordingRequests
  have elsewhere : (1 : Nat) ≠ 0 := by decide
  have atFirst : TransactionRun Sample.begun ⟨0, []⟩ [] Sample.begun ⟨0, []⟩ := .start
  have inserted : TransactionRun Sample.begun ⟨0, []⟩ [] Sample.disturbed ⟨0, []⟩ :=
    (atFirst.other (.execute 1 (Sample.insertion 8)) elsewhere).other
      (.execute 1 (Sample.insertion 9)) elsewhere
  have disturbed : TransactionRun Sample.begun ⟨0, []⟩ Sample.disturbedEnd.1
      Sample.disturbedEnd.2.1 Sample.disturbedEnd.2.2 :=
    inserted.ownAll Sample.recordingRequests
  have requests : Sample.undisturbedEnd.1.map Prod.fst = Sample.disturbedEnd.1.map Prod.fst := by
    rw [Sample.undisturbedEnd, Sample.disturbedEnd, OwnRequest.map_fst_serveAll,
      OwnRequest.map_fst_serveAll]
  obtain ⟨same, transaction, counterpart, held, otherHeld, tables⟩ :=
    transaction_isolated Sample.reachable_paired Sample.reachable_paired begun begun
      (fun _ => rfl) rfl undisturbed disturbed requests
  exact ⟨transaction, counterpart, Sample.reachable_paired, begun, undisturbed, disturbed, same,
    held, otherHeld, tables, by decide +kernel, by decide +kernel⟩

end Engine

end RowPayload
