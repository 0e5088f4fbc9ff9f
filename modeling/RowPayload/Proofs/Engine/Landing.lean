import RowPayload.Proofs.Engine.Change
import RowPayload.Proofs.Engine.View

/-!
# Where a handle writes

A handle stays on the cell it was opened on as long as it is there, and its number is never
given to another handle. So whatever a server is asked for between opening a payload and
working on it, that work changes one row of one table, as the connection of the handle sees
it, and nothing else that anybody sees. A transaction that has written a table goes on having
written it, whatever is done with handles.
-/

namespace RowPayload.Engine.Server

variable {server before after : Server} {number id : Nat} {address : CellAddress}

/-- A number was given to a handle that a connection opened on a cell. The handle may be gone
by now. -/
structure HandleOn (server : Server) (number id : Nat) (address : CellAddress) : Prop where
  given : number < server.handles.next
  place : ∀ handle, server.handles.get? number = some handle →
    handle.connection = id ∧ handle.address = address

namespace HandleOn

/-- Only the handles bear on where a handle is. -/
theorem of_handles (on : server.HandleOn number id address)
    (handles : after.handles = server.handles) : after.HandleOn number id address where
  given := handles ▸ on.given
  place := handles ▸ on.place

/-- No kind of change moves a handle. -/
theorem change {subject : Subject} (on : before.HandleOn number id address)
    (change : Change subject before after) : after.HandleOn number id address := by
  cases change with
  | recount _ _ handles _ => exact on.of_handles handles
  | createTable | connect | begin | leave | commit | release | writeCell => exact on.of_handles rfl
  | statement _ _ _ =>
    refine on.of_handles ?_
    cases before.connection _ <;> rfl
  | openPayload _ _ _ _ =>
    refine ⟨Nat.lt_succ_of_lt on.given, fun handle found => on.place handle ?_⟩
    rw [← found, Slots.get?_add_of_lt on.given]
  | @setHandle _ other old new held connection _ stays =>
    refine ⟨on.given, fun handle found => ?_⟩
    rcases Slots.get?_set_cases found with ⟨rfl, rfl⟩ | kept
    · have place := on.place old held
      exact ⟨connection.trans place.1, stays.trans place.2⟩
    · exact on.place handle kept
  | free other =>
    exact ⟨on.given, fun handle found => on.place handle (Slots.get?_of_free found)⟩

/-- No changes move a handle. -/
theorem changes {subject : Subject} (on : before.HandleOn number id address)
    (changes : Changes subject before after) : after.HandleOn number id address :=
  keeps_changes changes on fun change on => on.change change

/-- However many requests a server takes, a handle stays where it is. -/
theorem serveAll (on : server.HandleOn number id address) (requests : List Request) :
    (requests.foldl Request.serve server).HandleOn number id address :=
  List.foldlRecOn (motive := (HandleOn · number id address)) requests Request.serve on
    fun server on request _ => on.changes (changes_serve server request)

end HandleOn

/-- Nothing was committed, and everybody sees the rows he saw before, except for one row of
one table, as one connection sees it. -/
structure SameBut (before after : Server) (id : Nat) (file : String) (row : Nat) : Prop where
  catalog : after.catalog = before.catalog
  rows : ∀ viewer name number, ¬ (viewer = id ∧ name = file ∧ number = row) →
    (after.view viewer name).bind (·.row? number) = (before.view viewer name).bind (·.row? number)

namespace SameBut

variable {file : String} {row : Nat}

/-- Who sees the same tables sees the same rows. -/
theorem of_eq (catalog : after.catalog = before.catalog)
    (connections : ∀ viewer, after.connection viewer = before.connection viewer) :
    SameBut before after id file row where
  catalog := catalog
  rows := by
    intro viewer name number _
    have same : after.view viewer = before.view viewer := by
      rw [view, view, connections]
      cases before.connection viewer with
      | inTransaction transaction => rfl
      | closed | ready =>
        show after.catalog.get? = before.catalog.get?
        rw [catalog]
    rw [same]

/-- What two steps leave as it is, they leave so one after the other. -/
theorem trans {middle : Server} (first : SameBut before middle id file row)
    (second : SameBut middle after id file row) : SameBut before after id file row where
  catalog := second.catalog.trans first.catalog
  rows := fun viewer name number other =>
    (second.rows viewer name number other).trans (first.rows viewer name number other)

end SameBut

/-- Writing a cell of its row is all that a handle's change does to what anybody sees. -/
theorem HandleOn.sameBut_change (on : before.HandleOn number id address)
    (change : Change (.payload number) before after) :
    SameBut before after id address.table address.row := by
  cases change with
  | recount catalog connections _ _ =>
    exact .of_eq catalog fun viewer => by rw [connection, connection, connections]
  | setHandle _ _ _ _ => exact .of_eq rfl fun _ => rfl
  | free _ => exact .of_eq rfl fun _ => rfl
  | @writeCell _ _ handle transaction changed found held same value written =>
    obtain ⟨rfl, rfl⟩ := on.place handle found
    have alive : before.connection handle.connection ≠ .closed := by simp [held]
    refine ⟨rfl, fun viewer name row other => ?_⟩
    by_cases own : viewer = handle.connection
    · subst own
      have later : (before.setConnection handle.connection (.inTransaction changed)).connection
          handle.connection = .inTransaction changed := by
        rw [connection_setConnection alive, if_pos rfl]
      simp only [Transaction.writeCell?, Option.bind_eq_bind, Option.bind_eq_some_iff] at written
      obtain ⟨table, known, cellRow, numbered, equal⟩ := written
      cases equal
      rw [view, view, later, held]
      show ((transaction.writeTable handle.address.table _).table? name).bind _ =
        (transaction.table? name).bind _
      rw [Transaction.table?_writeTable]
      by_cases here : name = handle.address.table
      · subst here
        have different : row ≠ handle.address.row := fun equal => other ⟨rfl, rfl, equal⟩
        rw [if_pos rfl, known, Option.bind_some, Option.bind_some, Table.row?_setCell,
          Table.id_of_row? numbered]
        cases seen : table.row? row with
        | none => rfl
        | some old =>
          have number : old.id = row := Table.id_of_row? seen
          rw [Option.map_some, number, if_neg different]
      · rw [if_neg here]
    · have aside : (before.setConnection handle.connection (.inTransaction changed)).connection
          viewer = before.connection viewer := by
        rw [connection_setConnection alive, if_neg own]
      have same : (before.setConnection handle.connection (.inTransaction changed)).view viewer =
          before.view viewer := by
        rw [view, view, aside]
        cases before.connection viewer <;> rfl
      rw [same]

/-- Writing cells of its row is all that a handle's changes do to what anybody sees. -/
theorem HandleOn.sameBut_changes (on : before.HandleOn number id address)
    (changes : Changes (.payload number) before after) :
    SameBut before after id address.table address.row := by
  induction changes with
  | refl => exact .of_eq rfl fun _ => rfl
  | tail earlier change inductionHypothesis =>
    exact inductionHypothesis.trans ((on.changes earlier).sameBut_change change)

/-- **Work on a handle changes its own row and nothing else**, whatever the request. -/
theorem HandleOn.sameBut (on : server.HandleOn number id address) {request : Request}
    (own : request.subject = .payload number) :
    SameBut server (request.serve server) id address.table address.row := by
  have changes := changes_serve server request
  rw [own] at changes
  exact on.sameBut_changes changes

/-! ## Written tables -/

/-- A connection is in a transaction that has written a table. -/
def Wrote (server : Server) (id : Nat) (file : String) : Prop :=
  ∃ transaction, server.connection id = .inTransaction transaction ∧
    (transaction.changed.get? file).isSome = true

namespace Wrote

variable {file : String}

/-- A statement that has changed a table, as its connection sees it, has written it. -/
theorem of_execute {transaction : Transaction}
    (held : server.connection id = .inTransaction transaction) {command : Command}
    (changed : (server.execute id command).2.view id file ≠ server.view id file) :
    (server.execute id command).2.Wrote id file := by
  rw [execute_snd] at changed ⊢
  rcases run_inTransaction held command with
    same | ⟨inserted, updated, same⟩ | ⟨_, effect, name, table, -, -, same⟩
  · rw [same] at changed
    exact absurd rfl changed
  · rw [same] at changed
    exact absurd rfl changed
  · have alive : server.connection id ≠ .closed := by simp [held]
    have own : (server.run id command).2.connection id =
        .inTransaction (transaction.writeTable name table) := by
      rw [same, countStatement, connection_count, connection_setConnection alive, if_pos rfl]
    refine ⟨_, own, ?_⟩
    rw [view, view, own, held] at changed
    replace changed : (transaction.writeTable name table).table? file ≠
        transaction.table? file := changed
    rw [Transaction.table?_writeTable] at changed
    have here : file = name := Decidable.byContradiction fun other => changed (if_neg other)
    rw [Transaction.writeTable, OrderedMap.get?_insert, if_pos here]
    rfl

/-- Connections that are in the same states have written the same tables. -/
theorem of_connections (wrote : before.Wrote id file)
    (connections : after.connections = before.connections) : after.Wrote id file := by
  obtain ⟨transaction, held, written⟩ := wrote
  refine ⟨transaction, ?_, written⟩
  rw [connection, connections]
  exact held

/-- No kind of change of a handle unwrites a table. -/
theorem change (wrote : before.Wrote id file) (change : Change (.payload number) before after) :
    after.Wrote id file := by
  cases change with
  | recount _ connections _ _ => exact wrote.of_connections connections
  | setHandle _ _ _ _ => exact wrote.of_connections rfl
  | free _ => exact wrote.of_connections rfl
  | @writeCell _ _ handle transaction changed _ held _ _ written =>
    obtain ⟨own, ownHeld, wrote⟩ := wrote
    have alive : before.connection handle.connection ≠ .closed := by simp [held]
    by_cases here : id = handle.connection
    · subst here
      rw [held] at ownHeld
      cases ownHeld
      simp only [Transaction.writeCell?, Option.bind_eq_bind, Option.bind_eq_some_iff] at written
      obtain ⟨table, -, row, -, equal⟩ := written
      cases equal
      refine ⟨_, by rw [connection_setConnection alive, if_pos rfl], ?_⟩
      rw [Transaction.writeTable, OrderedMap.get?_insert]
      split
      · rfl
      · exact wrote
    · exact ⟨own, by rw [connection_setConnection alive, if_neg here, ownHeld], wrote⟩

/-- No changes of a handle unwrite a table. -/
theorem changes (wrote : before.Wrote id file)
    (changes : Changes (.payload number) before after) : after.Wrote id file :=
  keeps_changes changes wrote fun change wrote => wrote.change change

end Wrote

end RowPayload.Engine.Server
