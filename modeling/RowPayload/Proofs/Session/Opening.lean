import RowPayload.Proofs.Engine.Filing
import RowPayload.Proofs.Engine.View
import RowPayload.Proofs.Session.Editing
import RowPayload.Proofs.Session.Preparing

/-!
# Opening a stream

Opening a stream prepares its row, which may run one statement, and then opens the
payload, which changes no table. So a stream that opens is an open `Edit` of the
transaction as the preparation left it, with a plain file of the payload that its path
led to.
-/

namespace RowPayload

open Engine

variable {ε ρ : Type} {id : Nat}

/-- Opening an owned context keeps a server sound. -/
theorem Context.keepsSound_owned? (descriptor : Descriptor) (settings : String) :
    Work.Keeps Server.Sound (owned? descriptor settings) := by
  refine .bind (fun server sound => sound.changes (Server.changes_connect server settings))
    fun id => ?_
  refine .bind (fun server sound => sound.changes (Server.changes_beginTransaction server id))
    fun begun => ?_
  cases begun with
  | ok _ => exact .pure _
  | error fault =>
    refine .bind (fun server sound => sound.changes (Server.changes_close server id)) fun _ => ?_
    exact .bind (.modify fun server sound => sound.change (.release id)) fun _ => .throw fault

/-- An edit is on the payload, with a content, that a path leads to in the transaction of a
connection, by a handle with an access. -/
structure Edit.IsOn (edit : Edit) (server : Server) (id : Nat) (path : String) (access : Access)
    (payload : Nat) (content : Bytes) : Prop where
  connection : edit.connection = id
  payload : edit.payload = payload
  access : edit.access = access
  held : server.connection id = .inTransaction edit.prepared
  led : edit.prepared.payload? path = some (edit.address, content)

/-! ## Preparing the row -/

/-- A context on a connection in a transaction that sees sound tables, whoever owns it. -/
structure Scope.Watching (id : Nat) (scope : Scope Server ε) : Prop where
  connection : scope.context.connection = id
  active : scope.context.state = .active
  transaction : ∃ transaction, scope.store.connection id = .inTransaction transaction ∧
    transaction.Sound

/-- A context on a connection in a transaction that began with the committed tables and
sees sound ones. -/
structure Scope.Seeing (id : Nat) (scope : Scope Server ε) : Prop extends scope.Holding id where
  transaction : ∃ transaction, scope.store.connection id = .inTransaction transaction ∧
    transaction.origin = scope.store.catalog ∧ transaction.Sound

/-- A statement keeps what a context watches sound. -/
theorem Context.keepsWatching_execute (command : Command) :
    Work.Keeps (Scope.Watching id) (execute command : Scoped Server ε Nat) := by
  intro scope watching
  obtain ⟨transaction, held, sound⟩ := watching.transaction
  have performed : (Backend.execute id command : Work Error Server Nat).perform scope.store =
      ((scope.store.execute id command).1.mapError Error.ofEngine,
        (scope.store.execute id command).2) := rfl
  rw [execute, perform_onConnection _ watching.active, watching.connection, performed]
  obtain ⟨later, laterHeld, -, laterSound⟩ := Server.sound_run_inTransaction held sound command
  refine ⟨watching.connection, watching.active, later, ?_, laterSound⟩
  rw [← laterHeld, ← Server.execute_snd]

namespace Stream

open Context

/-- Preparing the row keeps what statements keep and the surroundings do not bear on. -/
theorem keeps_prepareRow {σ : Type} [Backend σ] {invariant : Scope σ ε → Prop}
    (surroundings : ∀ scope changed, invariant scope →
      invariant { scope with surroundings := changed })
    (execute : ∀ command, Work.Keeps invariant (Context.execute command))
    (options : Options σ ε) : Work.Keeps invariant (prepareRow options) := by
  refine .bind (.lift _) fun _ => .bind .get fun scope => ?_
  refine .bind (fun scope holds => surroundings scope _ holds) fun filter => ?_
  refine .bind (fun scope holds => surroundings scope _ holds) fun lifecycle => ?_
  cases lifecycle with
  | none => exact .pure filter
  | some command => exact .bind (execute command) fun _ => .pure filter

/-- Moving to the end of a payload keeps what the move and giving the payload up keep. -/
theorem keeps_seekEnd {σ : Type} [Backend σ] {invariant : Scope σ ε → Prop} (payload : Nat)
    (seek : Work.Keeps invariant (Scope.onStore (Backend.seek payload (.fromEnd 0)) :
      Work IoFault (Scope σ ε) Nat))
    (release : ∀ scope, invariant scope →
      invariant { scope with store := Backend.releasePayload scope.store payload }) :
    Work.Keeps invariant (seekEnd payload : Scoped σ ε Unit) := by
  refine .bind seek.attempt fun sought => ?_
  cases sought with
  | ok position => exact .pure ()
  | error fault => exact .bind (.modify release) fun _ => .throw _

/-- Opening the payload keeps what the query, opening a payload and moving to its end keep. -/
theorem keeps_openRow {σ : Type} [Backend σ] {invariant : Scope σ ε → Prop}
    (query : ∀ command, Work.Keeps invariant (Context.query command))
    (openPayload : ∀ path token access, Work.Keeps invariant
      (onConnection fun connection => Backend.openPayload connection path token access))
    (seekEnd : ∀ payload, Work.Keeps invariant (Stream.seekEnd payload))
    (schema : Schema ρ) (options : Options σ ε) (filter : Clause) :
    Work.Keeps invariant (openRow schema options filter) := by
  refine .bind .get fun scope => .bind (query _) fun result => ?_
  cases result.first? with
  | none => exact .throw _
  | some row =>
    refine .bind (.lift _) fun path => .bind (.lift _) fun token => .bind (.lift _) fun record => ?_
    refine .bind (openPayload path token options.access) fun payload => .ite (fun _ => ?_)
      fun _ => .pure _
    exact .bind (seekEnd payload) fun _ => .pure _

/-- Preparing the row keeps what the context watches sound. -/
theorem keepsWatching_prepareRow (options : Options Server ε) :
    Work.Keeps (Scope.Watching id) (prepareRow options) :=
  keeps_prepareRow (fun _ _ watching => ⟨watching.connection, watching.active,
    watching.transaction⟩) keepsWatching_execute options

/-- A row that was prepared was prepared inside the transaction. -/
theorem inside_prepareRow {options : Options Server ε} {scope after : Scope Server ε}
    {filter : Clause} {transaction : Transaction}
    (held : scope.store.connection scope.context.connection = .inTransaction transaction)
    (done : (prepareRow options).perform scope = (.ok filter, after)) :
    Server.Inside scope.context.connection scope.store after.store := by
  obtain ⟨-, -, _, _, _, -, ⟨-, same⟩ | ⟨written, count, -, executed⟩⟩ := prepareRow_ok done
  · rw [same]
    exact .refl _ _
  · have stays := Server.inside_execute held written
    rwa [executed] at stays

/-! ## Opening the payload -/

/-- The plain file that a mode starts from: at the start of a content, or at its end for
appending. -/
def startFile (mode : OpenMode) (content : Bytes) : PlainFile :=
  { PlainFile.ofContent content with
    position := if mode = .append then content.length else 0 }

/-- The bytes that a stream starts with are those of its payload. -/
theorem content_startFile (mode : OpenMode) (content : Bytes) :
    (startFile mode content).content = content :=
  PlainFile.content_ofContent content

/-- Moving to the end of a payload, if it succeeds, leaves its edit under way at its end. -/
theorem seekEnd_ok {edit : Edit} {content : Bytes} {scope after : Scope Server ε}
    (underway : edit.Underway (.ofContent content) scope.store)
    (sought : (seekEnd edit.payload : Scoped Server ε Unit).perform scope = (.ok (), after)) :
    after.context = scope.context ∧ Server.Inside edit.connection scope.store after.store ∧
      edit.Underway { PlainFile.ofContent content with position := content.length }
        after.store := by
  obtain ⟨answer, next⟩ := underway.seek (.fromEnd 0)
  have inside := Server.inside_onHandle edit.connection scope.store edit.payload
    fun handle => handle.seek (.fromEnd 0)
  obtain ⟨result, middle, attempted, continued⟩ := Work.perform_bind_ok sought
  have performed : (result, middle) =
      ((scope.store.onHandle edit.payload fun handle => handle.seek (.fromEnd 0)).1,
        ({ scope with store := (scope.store.onHandle edit.payload fun handle =>
          handle.seek (.fromEnd 0)).2 } : Scope Server ε)) := by
    cases attempted
    rfl
  obtain ⟨rfl, rfl⟩ := Prod.mk.inj performed
  generalize (scope.store.onHandle edit.payload fun handle => handle.seek (.fromEnd 0)) =
    done at answer next inside continued
  obtain ⟨moved, store⟩ := done
  cases moved with
  | error fault => simp [Work.perform_bind] at continued
  | ok position =>
    simp only [Work.perform_pure, Prod.mk.injEq, true_and] at continued
    rw [← continued]
    refine ⟨rfl, inside, ?_⟩
    by_cases fits : 0 ≤ (PlainFile.ofContent content).target (.fromEnd 0) ∧
        (PlainFile.ofContent content).target (.fromEnd 0) < ByteFile.positionBound
    · rw [PlainFile.seek, if_pos fits] at next
      simpa [PlainFile.target, PlainFile.ofContent] using next
    · simp [PlainFile.seek, if_neg fits, Except.map] at answer

/-- A payload that opens is edited in the transaction, starting from its bytes. -/
theorem openPayload_edit {server after : Server} {transaction : Transaction} {path : String}
    {token : Bytes} {access : Access} {payload : Nat}
    (held : server.connection id = .inTransaction transaction) (sound : transaction.Sound)
    (opened : server.openPayload id path token access = (.ok payload, after)) :
    ∃ edit : Edit, ∃ content, edit.IsOn server id path access payload content ∧
      edit.Underway (.ofContent content) after := by
  obtain ⟨own, address, content, ownHeld, led, connections, -, -, handled⟩ :=
    Server.openPayload_ok opened
  obtain rfl : own = transaction := by
    rw [held] at ownHeld
    exact (Connection.inTransaction.inj ownHeld).symm
  obtain ⟨name, table, row, -, -, seen, -, found, stored⟩ := Transaction.payload?_eq_some led
  obtain ⟨inside, -⟩ := List.getElem?_eq_some_iff.1 stored
  have tableSound : table.Sound := sound _ _ seen
  let edit : Edit :=
    ⟨id, payload, access, address, own, table, row, seen, found, inside, tableSound⟩
  have holds : edit.Holds own content := by
    have unchanged : edit.tableWith content = table := tableSound.setCell_self found stored
    exact ⟨rfl, fun _ _ => rfl, by rw [seen, unchanged]⟩
  refine ⟨edit, content, ⟨rfl, rfl, rfl, held, led⟩, own, content, false, ?_, holds, ?_,
    fun _ => ?_⟩
  · rw [← held, Server.connection, Server.connection, connections]
  · have file : (PlainFile.ofContent content).toByteFile = .ofContent content := by
      rw [PlainFile.toByteFile, PlainFile.content_ofContent]
      rfl
    rw [handled, Edit.handle, file]
  · rw [PlainFile.content_ofContent]

/-- The row that a filter leads to has its payload opened, and the stream starts where its
mode says. -/
theorem openRow_ok {schema : Schema ρ} {options : Options Server ε} {filter : Clause}
    {scope after : Scope Server ε} {opened : Opened ρ} (watching : scope.Watching id)
    (done : (openRow schema options filter).perform scope = (.ok opened, after)) :
    ∃ edit : Edit, ∃ content,
      edit.IsOn scope.store id opened.path options.access opened.payload content ∧
      after.context = scope.context ∧ Server.Inside id scope.store after.store ∧
      edit.Underway (startFile options.mode content) after.store := by
  obtain ⟨transaction, held, sound⟩ := watching.transaction
  obtain ⟨result, row, token, asked, ready, queried, -, -, opens, context, continued⟩ :=
    openRow_cases done
  obtain ⟨⟨change, rfl⟩, -⟩ := Server.query_cases queried
  rw [watching.connection] at opens queried
  have stillHeld : (scope.store.count change).connection id = .inTransaction transaction := held
  obtain ⟨edit, content, isOn, underway⟩ := openPayload_edit stillHeld sound opens
  have asking := Server.inside_query held (Lifecycle.handleQuery scope.context.descriptor filter
    options.access.canRead)
  have opening := Server.inside_openPayload id (scope.store.count change) id opened.path token
    options.access
  rw [queried] at asking
  rw [opens] at opening
  have inside : Server.Inside id scope.store ready.store := asking.trans opening
  refine ⟨edit, content, ⟨isOn.connection, isOn.payload, isOn.access, isOn.held, isOn.led⟩, ?_⟩
  rcases continued with ⟨other, rfl⟩ | ⟨appending, sought⟩
  · refine ⟨context, inside, ?_⟩
    rwa [startFile, if_neg other]
  · rw [← isOn.payload] at sought
    obtain ⟨kept, later, atEnd⟩ := seekEnd_ok underway sought
    rw [isOn.connection] at later
    refine ⟨kept.trans context, inside.trans later, ?_⟩
    rwa [startFile, if_pos appending]

/-- What a context has opened that watches its connection: the payload its path leads to in the
transaction as the preparation of the row left it. -/
theorem openOn_underway {schema : Schema ρ} {options : Options Server ε} {context : Context}
    {world opened : World Server ε} {stream : Stream Server ε ρ}
    (watching : (⟨world, context⟩ : Scope Server ε).Watching id)
    (opens : (openOn context schema options).perform world = (.ok stream, opened)) :
    ∃ edit : Edit, ∃ content,
      edit.IsOn ((prepareRow options).perform ⟨world, context⟩).2.store id stream.path
        options.access stream.payload content ∧
      stream.onClose = options.onClose ∧ stream.context = context ∧
      Server.Inside id world.store opened.store ∧
      edit.Underway (startFile options.mode content) opened.store := by
  obtain ⟨filter, ready, found, finish, prepared, done, rfl, rfl⟩ := openOn_cases opens
  obtain ⟨transaction, held, -⟩ := watching.transaction
  have readyWatching := keepsWatching_prepareRow options _ watching
  obtain rfl : context.connection = id := watching.connection
  have preparing := inside_prepareRow held prepared
  have unchanged := (prepareRow_ok prepared).1
  rw [prepared] at readyWatching ⊢
  obtain ⟨edit, content, isOn, same, opening, underway⟩ := openRow_ok readyWatching done
  exact ⟨edit, content, isOn, rfl, same.trans unchanged, preparing.trans opening, underway⟩

/-- What opening a stream has opened: the payload its path leads to in the transaction as
the preparation of the row left it. -/
theorem openOn_ok {schema : Schema ρ} {options : Options Server ε} {context : Context}
    {world opened : World Server ε} {stream : Stream Server ε ρ}
    (seeing : (⟨world, context⟩ : Scope Server ε).Seeing id)
    (opens : (openOn context schema options).perform world = (.ok stream, opened)) :
    ∃ edit : Edit, ∃ content,
      edit.IsOn ((prepareRow options).perform ⟨world, context⟩).2.store id stream.path
        options.access stream.payload content ∧
      stream.onClose = options.onClose ∧
      (⟨opened, stream.context⟩ : Scope Server ε).Holding id ∧
      edit.Open (startFile options.mode content) opened.store := by
  obtain ⟨transaction, held, origin, sound⟩ := seeing.transaction
  obtain ⟨edit, content, isOn, hooks, context, inside, underway⟩ :=
    openOn_underway ⟨seeing.connection, seeing.active, transaction, held, sound⟩ opens
  refine ⟨edit, content, isOn, hooks, ?_, ?_, underway⟩
  · obtain ⟨owned, own, active⟩ := seeing.toHolding
    rw [← context] at owned own active
    exact ⟨owned, own, active⟩
  · -- Nothing was committed, and the transaction has kept what it began with.
    obtain ⟨current, _, _, currentHeld, holds, -⟩ := underway
    obtain ⟨later, laterHeld, same⟩ := inside.transaction transaction held
    rw [isOn.connection, laterHeld] at currentHeld
    cases currentHeld
    have began : edit.prepared.origin = transaction.origin :=
      congrArg (fun identity => identity.2.2) (holds.identity.symm.trans same)
    rw [began, origin]
    exact inside.catalog

/-- Opening the payload, unless it appends, leaves the connections in their states. -/
theorem openRow_connections {schema : Schema ρ} {options : Options Server ε} {filter : Clause}
    {scope after : Scope Server ε} {opened : Opened ρ} (other : options.mode ≠ .append)
    (done : (openRow schema options filter).perform scope = (.ok opened, after)) :
    after.store.connections = scope.store.connections := by
  obtain ⟨result, row, token, asked, ready, queried, -, -, opens, -, continued⟩ :=
    openRow_cases done
  obtain ⟨⟨change, rfl⟩, -⟩ := Server.query_cases queried
  obtain ⟨_, _, _, -, -, connections, -⟩ := Server.openPayload_ok opens
  rcases continued with ⟨-, rfl⟩ | ⟨appending, -⟩
  · exact connections
  · exact absurd appending other

end Stream

end RowPayload
