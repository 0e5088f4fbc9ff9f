import RowPayload.Value
import RowPayload.Text.Piece

/-!
# Result sets

What a query returns: column names, computed columns having an empty one, and rows
of values. A column is looked up by its exact name first and then ignoring the case
of ASCII letters.
-/

namespace RowPayload

/-- The rows a query returns. -/
structure ResultSet where
  columns : List String
  rows : List (List Value)
deriving DecidableEq

/-- One row with the names of its columns. -/
structure ResultRow where
  columns : List String
  values : List Value
deriving DecidableEq

namespace ResultRow

/-- The place of a column. -/
def ordinal? (row : ResultRow) (name : String) : Option Nat :=
  (row.columns.findIdx? (· == name)).or (row.columns.findIdx? (Text.sameLetters · name))

/-- The value of a column. -/
def value? (row : ResultRow) (name : String) : Option Value :=
  (row.ordinal? name).bind fun ordinal => row.values[ordinal]?

end ResultRow

namespace ResultSet

/-- The rows with the names of their columns. -/
def toRows (result : ResultSet) : List ResultRow := result.rows.map fun values =>
  ⟨result.columns, values⟩

/-- The first row, if there is one. -/
def first? (result : ResultSet) : Option ResultRow := result.toRows.head?

end ResultSet

end RowPayload
