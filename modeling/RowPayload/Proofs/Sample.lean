import RowPayload.Proofs.Engine.Reachable
import RowPayload.Session.Stream

/-!
# A sample archive

A server with one table of recordings, the descriptor of the recordings and one to
insert: a small world in which general statements are tried.
-/

namespace RowPayload.Sample

open Engine

/-- How recordings are stored: the key is the identifier, the sound the payload. -/
def descriptor : Descriptor where
  table := "Recordings"
  columns := ((OrderedMap.empty.insert "id" "[Id]").insert "title" "[Title]").insert
    "sound" "[Sound]"
  identifier := some "id"
  payload := "sound"
  payloadColumn := "[Sound]"
  payload_mapped := rfl
  identifier_mapped := by
    rintro _ ⟨⟩
    decide

/-- The table of recordings, without rows. -/
def table : Table :=
  (((Table.empty "Recordings").withKey "Id").withColumn "Title").withPayload "Sound"

/-- A server with the table of recordings. -/
def server : Server := (Server.ofSecret [1, 2, 3]).createTable table

/-- The settings of a connection. -/
def settings : String := "Server=archive;Trusted_Connection=true"

/-- The server with its first connection open. -/
def connected : Server := (server.connect settings).2

/-- The server with two connections open. -/
def paired : Server := (connected.connect settings).2

/-- The server of the archive is reachable. -/
theorem reachable_server : server.Reachable :=
  .serve (.start [1, 2, 3]) (.createTable table rfl)

/-- The server with two connections is reachable. -/
theorem reachable_paired : paired.Reachable :=
  .serve (.serve reachable_server (.connect settings)) (.connect settings)

/-- The statement that inserts an empty recording under a number. -/
def insertion (key : Nat) : Command :=
  .ofText ("INSERT INTO Recordings ([Id], [Sound]) VALUES (" ++ toString key ++ ", 0x)")

/-- The recording with the number 7. -/
def seventh {ε : Type} : Predicate ε := .columnEquals "id" (.int 7)

/-- A recording to insert under the number 7. -/
def recording {ε : Type} : NewRow ε :=
  (NewRow.empty.set "id" (.int 7)).set "title" (.text "Dawn")

/-- A recording with a size, which recordings do not have. -/
def sized {ε : Type} : NewRow ε := (NewRow.empty.set "id" (.int 7)).set "Size" (.int 1)

/-- Records of which nothing is read. -/
def schema : Schema Unit := ⟨"Recording", (), []⟩

end RowPayload.Sample
