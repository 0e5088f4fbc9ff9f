import RowPayload.Engine.Table
import RowPayload.Text.Digits

/-!
# Path locators

A path locator names a row: a fixed beginning, the name of the table, a backslash
and the number of the row. It is taken apart at its last backslash, so that a table
name may contain some.
-/

namespace RowPayload.Engine.Locator

/-- What every locator begins with. -/
def opening : List Char := "\\\\memory\\".toList

/-- Row numbers are below this bound. -/
def rowBound : Nat := Nat.pow 2 64

/-- The locator of a row. -/
def write (table : String) (row : Nat) : String :=
  String.ofList (opening ++ table.toList ++ '\\' :: (toString row).toList)

/-- The table name and the row number in a locator. -/
def read? (path : String) : Option (String × Nat) := do
  let rest ← if opening.isPrefixOf path.toList then some (path.toList.drop opening.length) else none
  let (table, digits) ← Text.cutLast '\\' rest
  return (String.ofList table, ← Text.counter? rowBound digits)

end RowPayload.Engine.Locator
