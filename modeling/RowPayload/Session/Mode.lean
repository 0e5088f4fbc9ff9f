/-!
# Open modes and payload access

The mode says how the row is prepared before its payload is opened, the access
what the opened payload allows.
-/

namespace RowPayload

/-- How the row is prepared before its payload is opened. -/
inductive OpenMode where
  /-- The row must exist; nothing changes. -/
  | openExisting
  /-- Insert the row, or empty the payload of the one that exists. -/
  | create
  /-- Insert the row whatever exists. -/
  | createNew
  /-- Insert the row unless one exists. -/
  | openOrCreate
  /-- Empty the payload of the row. -/
  | truncate
  /-- The row must exist; the position starts at the end of its payload. -/
  | append
deriving DecidableEq

namespace OpenMode

/-- The modes in the order of their declaration. -/
def all : List OpenMode :=
  [.openExisting, .create, .createNew, .openOrCreate, .truncate, .append]

/-- The name of a mode. -/
def name : OpenMode → String
  | .openExisting => "Open"
  | .create => "Create"
  | .createNew => "CreateNew"
  | .openOrCreate => "OpenOrCreate"
  | .truncate => "Truncate"
  | .append => "Append"

/-- Whether the mode may insert a row. -/
def createsRow : OpenMode → Bool
  | .create | .createNew | .openOrCreate => true
  | .openExisting | .truncate | .append => false

end OpenMode

/-- What an opened payload allows. -/
inductive Access where
  | read
  | write
  | readWrite
deriving DecidableEq

namespace Access

/-- The accesses in the order of their declaration. -/
def all : List Access := [.read, .write, .readWrite]

/-- The name of an access. -/
def name : Access → String
  | .read => "Read"
  | .write => "Write"
  | .readWrite => "ReadWrite"

/-- Whether the payload may be read. -/
def canRead : Access → Bool
  | .read | .readWrite => true
  | .write => false

/-- Whether the payload may be written. -/
def canWrite : Access → Bool
  | .write | .readWrite => true
  | .read => false

end Access

end RowPayload
