import RowPayload.Proofs.Engine.Conduct
import RowPayload.Proofs.Engine.Selection
import RowPayload.Proofs.Sample

/-!
# Where path locators lead

The locator that a query shows for a row names the table and the row, and not the column it was
asked for in. So within its transaction it leads to the first payload column of that row, whatever
its server was asked for in between: its table keeps the name it is filed under and its columns,
and the row keeps its number. Two rows of a table never have the same locator.
-/

namespace RowPayload

namespace Engine

/-! ## Locators that are shown -/

/-- A row holds bytes in a payload column that has a name. -/
structure Table.HoldsPayload (table : Table) (row : TableRow) (column : String) (place : Nat)
    (content : Bytes) : Prop where
  named : table.columnIndex column = .ok place
  payload : (table.columns[place]?.map TableColumn.isPayload).getD false = true
  bytes : row.cell place = .bytes content

/-- The locators that a table's rows show are different for different rows. -/
def Table.LocatorsDiffer (table : Table) : Prop :=
  ∀ row ∈ table.rows, ∀ other ∈ table.rows, ∀ column name path,
    Scene.pathName table row column = .ok (.text path) →
      Scene.pathName table other name = .ok (.text path) → other = row

namespace Table

variable {table : Table} {row : TableRow} {column : String} {place : Nat} {content : Bytes}

/-- The locator of a row is shown for each of its columns that holds bytes. -/
theorem HoldsPayload.pathName (holds : table.HoldsPayload row column place content) :
    Scene.pathName table row column = .ok (.text (Locator.write table.name row.id)) := by
  have present : (row.cell place).isNull = false := by
    rw [holds.bytes]
    rfl
  rw [Scene.pathName, holds.named]
  simp only [bind, Except.bind, holds.payload, if_true, present]
  rfl

/-- A table with a payload column has a first one. -/
theorem HoldsPayload.exists_first (holds : table.HoldsPayload row column place content) :
    ∃ first, table.payloadIndex? = some first := by
  obtain ⟨defined, found, isPayload⟩ :
      ∃ defined, table.columns[place]? = some defined ∧ defined.isPayload = true := by
    cases found : table.columns[place]? with
    | none => simpa [found] using holds.payload
    | some defined => exact ⟨defined, rfl, by simpa [found] using holds.payload⟩
  have some : (table.columns.findIdx? (·.isPayload)).isSome := by
    rw [List.findIdx?_isSome, List.any_eq_true]
    exact ⟨defined, List.mem_of_getElem? found, isPayload⟩
  exact Option.isSome_iff_exists.1 some

/-- Rows of a sound table with the same number are the same. -/
theorem Sound.eq_of_id (sound : table.Sound) {other : TableRow} (member : row ∈ table.rows)
    (inside : other ∈ table.rows) (same : other.id = row.id) : other = row := by
  have found := sound.row?_of_mem inside
  rw [same, sound.row?_of_mem member] at found
  exact (Option.some.inj found).symm

/-- The locators of a sound table's rows differ. -/
theorem Sound.locatorsDiffer (sound : table.Sound) : table.LocatorsDiffer := by
  intro row member other inside column name path shown again
  obtain ⟨rfl, -⟩ := Scene.pathName_text shown
  obtain ⟨same, -⟩ := Scene.pathName_text again
  exact sound.eq_of_id member inside (Locator.write_injective same).symm

end Table

/-! ## Following a locator -/

/-- Within a transaction a locator leads to the first payload column of its row. -/
theorem Transaction.payload?_write {transaction : Transaction} {file : String} {table : Table}
    {row : TableRow} {first : Nat} (seen : transaction.table? file = some table)
    (filed : table.FiledUnder file) (sound : table.Sound) (member : row ∈ table.rows)
    (bounded : row.id < Locator.rowBound) (payloads : table.payloadIndex? = some first) :
    transaction.payload? (Locator.write table.name row.id) =
      (row.cell first).bytes?.map fun content => (⟨file, row.id, first⟩, content) := by
  replace filed : fileName table.name = file := filed
  rw [payload?, Locator.read?_write_eq, if_pos bounded]
  simp only [Option.bind_eq_bind, Option.bind_some, filed, seen, payloads,
    sound.row?_of_mem member]
  cases (row.cell first).bytes? <;> rfl

/-- What opening a path comes to that leads to a cell with a value. If it holds bytes, they are
opened, by a handle that conducts itself as one on this cell; otherwise the path is refused. -/
structure OpensCell (server : Server) (path : String) (token : Bytes) (place : HandlePlace)
    (value : Value) : Prop where
  opens : ∀ content, value = .bytes content → ∀ access, ∃ number opened,
    server.openPayload place.connection path token access = (.ok number, opened) ∧
    opened.handles.get? number = some ⟨place.connection, place.transaction, place.address,
      .ofContent content, access, false, true⟩ ∧
    ∀ history last, HandleRun number opened history last →
      Conduct place access number last (.ofHistory history)
  refuses : (∀ content, value ≠ .bytes content) → ∀ access,
    server.openPayload place.connection path token access = (.error (.invalidPath path), server)

namespace Server

/-- What opening a path comes to is what it leads to in the transaction of the connection. -/
theorem opensCell_of_payload? {server : Server} {id : Nat} {transaction : Transaction}
    {path : String} {address : CellAddress} {value : Value} (reached : server.Reachable)
    (held : server.connection id = .inTransaction transaction)
    (led : transaction.payload? path = value.bytes?.map fun content => (address, content)) :
    OpensCell server path transaction.token ⟨id, transaction.number, address⟩ value where
  opens := by
    rintro content rfl access
    replace led : transaction.payload? path = some (address, content) := led
    have opens := openPayload_of_payload? held led access
    refine ⟨_, _, opens, ?_⟩
    generalize Server.count _ _ = opened at opens ⊢
    obtain ⟨own, cell, bytes, ownHeld, ownLed, openedOn⟩ := exists_openedOn reached opens
    obtain ⟨other, otherCell, otherBytes, otherHeld, otherLed, -, -, -, found⟩ :=
      openPayload_ok opens
    obtain rfl : transaction = own := by simpa [held] using ownHeld
    obtain rfl : transaction = other := by simpa [held] using otherHeld
    rw [led] at ownLed otherLed
    cases ownLed
    cases otherLed
    exact ⟨found, fun _ _ run => openedOn.conduct run⟩
  refuses := by
    intro other access
    have nowhere : transaction.payload? path = none := by
      rw [led]
      cases value with
      | bytes content => exact absurd rfl (other content)
      | _ => rfl
    simp only [openPayload, held, nowhere, ne_eq, not_true_eq_false, if_false]

/-- What a transaction sees goes on, whatever its server is asked for. -/
theorem Lasting.serveAll_goesOn {first : Transaction} {id number : Nat} {server : Server}
    (lasting : server.Lasting id number first.GoesOn) (requests : List Request) :
    (requests.foldl Request.serve server).Lasting id number first.GoesOn :=
  List.foldlRecOn requests Request.serve lasting fun _ lasting request _ => lasting.serve_goesOn request

/-- Requests lead from a reachable server to reachable ones. -/
theorem Reachable.serveAll {server : Server} (reached : server.Reachable)
    (requests : List Request) : (requests.foldl Request.serve server).Reachable :=
  List.foldlRecOn requests Request.serve reached fun _ reached request _ => reached.serve request

end Server

/-- **Path locators address the rows they were asked for**, and the first payload column there.
In a transaction, a row that holds bytes in some payload column shows its locator for this column.
Whatever the server is asked for then, as long as the transaction goes on, the locator opens with
its token what the row holds in the first payload column by then, and the handle writes back there.
The rows of a table never share a locator. -/
theorem locators_address_rows {server : Server} {id : Nat} {transaction : Transaction}
    {file : String} {table : Table} {row : TableRow} {column : String} {place : Nat}
    {content : Bytes} (reached : server.Reachable)
    (held : server.connection id = .inTransaction transaction)
    (seen : transaction.table? file = some table) (member : row ∈ table.rows)
    (bounded : row.id < Locator.rowBound)
    (holds : table.HoldsPayload row column place content) :
    (∃ path first, table.payloadIndex? = some first ∧
      (∀ parameters, (server.scene (server.connection id) parameters).project table row
        (.pathName column) = .ok (.text path)) ∧
      ∀ (requests : List Request) (later : Transaction),
        (requests.foldl Request.serve server).connection id = .inTransaction later →
        later.number = transaction.number →
        ∃ now, later.table? file = some now ∧ table.GoesOn now ∧
          row.id ∈ now.rows.map TableRow.id ∧
          ∀ current ∈ now.rows, current.id = row.id →
            OpensCell (requests.foldl Request.serve server) path transaction.token
              ⟨id, transaction.number, ⟨file, row.id, first⟩⟩ (current.cell first)) ∧
      ∀ other name seen, server.view other name = some seen → Table.LocatorsDiffer seen := by
  refine ⟨?_, fun other name seen found => (reached.sound.of_view found).locatorsDiffer⟩
  obtain ⟨first, payloads⟩ := holds.exists_first
  refine ⟨_, first, payloads, fun _ => holds.pathName, fun requests later laterHeld same => ?_⟩
  have lasting := (reached.numbered.lasting held).serveAll_goesOn requests
  have laterReached := reached.serveAll requests
  generalize requests.foldl Request.serve server = after at laterHeld lasting laterReached ⊢
  have goesOn := lasting.holds later laterHeld same
  obtain ⟨now, nowSeen, lasts⟩ := goesOn.tables file table seen
  refine ⟨now, nowSeen, lasts, lasts.rows _ (List.mem_map_of_mem member), ?_⟩
  intro current inside numbered
  have leads := Transaction.payload?_write nowSeen
    (laterReached.filed.transactions id later laterHeld file now nowSeen)
    (laterReached.sound.transactions id later laterHeld file now nowSeen) inside
    (numbered ▸ bounded) (lasts.payloadIndex?.trans payloads)
  rw [lasts.name, numbered] at leads
  have token : later.token = transaction.token := congrArg (·.2.1) goesOn.identity
  rw [← token, ← same]
  exact Server.opensCell_of_payload? laterReached laterHeld leads

end Engine

/-! ## A table with two payload columns -/

namespace Sample

open Engine

/-- How discs are stored: the cover is the first payload, the sound the second one. -/
def discs : Table :=
  (((Table.empty "Discs").withKey "Id").withPayload "Cover").withPayload "Sound"

/-- The statement that inserts a disc with two bytes of cover and one of sound. -/
def discInsertion : Command :=
  .ofText "INSERT INTO Discs ([Id], [Cover], [Sound]) VALUES (1, 0x0102, 0x03)"

/-- The disc as it is stored. -/
def disc : TableRow := ⟨1, [.bigInt 1, .bytes [1, 2], .bytes [3]]⟩

/-- The table of discs with the one. -/
def oneDisc : Table := { discs with rows := [disc], nextRowId := 2 }

/-- A server with the one disc, on whose connection a transaction has begun. -/
def discInTransaction : Server :=
  (((((Server.ofSecret [1, 2, 3]).createTable discs).connect settings).2.execute 0
    discInsertion).2.beginTransaction 0).2

/-- The server with the disc is reachable. -/
theorem reachable_discInTransaction : discInTransaction.Reachable :=
  .serve (.serve (.serve (.serve (.start [1, 2, 3]) (.createTable discs rfl)) (.connect settings))
    (.execute 0 discInsertion)) (.beginTransaction 0)

/-- The transaction sees the disc. -/
theorem exists_discTransaction :
    ∃ transaction, discInTransaction.connection 0 = .inTransaction transaction ∧
      transaction.table? "discs" = some oneDisc := by
  obtain ⟨reported, seen⟩ : discInTransaction.connectionState 0 = .inTransaction ∧
      discInTransaction.view 0 "discs" = some oneDisc := by decide +kernel
  obtain ⟨transaction, held⟩ := Server.exists_transaction reported
  rw [Server.view, held] at seen
  exact ⟨transaction, held, seen⟩

/-- The disc holds bytes in its cover. -/
theorem holdsPayload_cover : oneDisc.HoldsPayload disc "[Cover]" 1 [1, 2] :=
  ⟨Checked.eq_ok_of_toOption (by decide +kernel), by decide, rfl⟩

/-- The disc holds a byte in its sound. -/
theorem holdsPayload_sound : oneDisc.HoldsPayload disc "[Sound]" 2 [3] :=
  ⟨Checked.eq_ok_of_toOption (by decide +kernel), by decide, rfl⟩

end Sample

namespace Engine

/-- The locator that is shown for the cover of the disc opens the cover. -/
theorem locators_address_rows_cover :
    ∃ transaction path, Sample.discInTransaction.connection 0 = .inTransaction transaction ∧
      Scene.pathName Sample.oneDisc Sample.disc "[Cover]" = .ok (.text path) ∧
      OpensCell Sample.discInTransaction path transaction.token
        ⟨0, transaction.number, ⟨"discs", 1, 1⟩⟩ (.bytes [1, 2]) := by
  obtain ⟨transaction, held, seen⟩ := Sample.exists_discTransaction
  have member : Sample.disc ∈ Sample.oneDisc.rows := List.mem_cons_self
  obtain ⟨⟨path, first, payloads, shown, leads⟩, -⟩ := locators_address_rows
    Sample.reachable_discInTransaction held seen member (by decide) Sample.holdsPayload_cover
  obtain ⟨now, nowSeen, -, -, opens⟩ := leads [] transaction held rfl
  obtain rfl := Option.some.inj (seen.symm.trans nowSeen)
  obtain rfl : 1 = first := Option.some.inj payloads
  exact ⟨transaction, path, held, shown [], opens Sample.disc member rfl⟩

/-- **The column that a locator was asked for in does not count**: the one that is shown for the
sound of a disc opens the cover. -/
theorem sound_locator_opens_cover :
    Sample.discInTransaction.Reachable ∧ ∃ transaction path number opened handle,
      Sample.discInTransaction.connection 0 = .inTransaction transaction ∧
      transaction.table? "discs" = some Sample.oneDisc ∧ Sample.disc ∈ Sample.oneDisc.rows ∧
      Sample.oneDisc.HoldsPayload Sample.disc "[Sound]" 2 [3] ∧
      Scene.pathName Sample.oneDisc Sample.disc "[Sound]" = .ok (.text path) ∧
      Sample.discInTransaction.openPayload 0 path transaction.token .read = (.ok number, opened) ∧
      opened.handles.get? number = some handle ∧ handle.file.content = [1, 2] := by
  obtain ⟨transaction, held, seen⟩ := Sample.exists_discTransaction
  have reached := Sample.reachable_discInTransaction
  have filed := reached.filed.transactions 0 transaction held "discs" Sample.oneDisc seen
  have sound := reached.sound.transactions 0 transaction held "discs" Sample.oneDisc seen
  have member : Sample.disc ∈ Sample.oneDisc.rows := List.mem_cons_self
  have payloads : Sample.oneDisc.payloadIndex? = some 1 := rfl
  have leads := Transaction.payload?_write seen filed sound member (by decide) payloads
  have opens := (Server.opensCell_of_payload? reached held leads).opens [1, 2] rfl .read
  obtain ⟨number, opened, answered, found, -⟩ := opens
  exact ⟨reached, transaction, _, number, opened, _, held, seen, member, Sample.holdsPayload_sound,
    Sample.holdsPayload_sound.pathName, answered, found, rfl⟩

end Engine

end RowPayload
