import RowPayload.FieldType

/-!
# Commands

A command is a statement text with placeholders and the parameters they bind. The
placeholder of the parameter with ordinal `n` is `@pn`.
-/

namespace RowPayload

/-- The placeholder of an ordinal. -/
def placeholder (ordinal : Nat) : String := "@p" ++ toString ordinal

/-- A bound parameter. -/
structure Parameter where
  ordinal : Nat
  name : String
  /-- The column the value is compared with or stored in, where it is known. -/
  column : Option String
  /-- The type bound; none for an untyped null. -/
  type : Option SqlType
  value : Value
deriving DecidableEq

namespace Parameter

/-- A parameter named after its ordinal. -/
def make (ordinal : Nat) (type : Option SqlType) (value : Value) : Parameter :=
  ⟨ordinal, placeholder ordinal, none, type, value⟩

/-- The parameter with another ordinal and the name that goes with it. -/
def shift (offset : Nat) (parameter : Parameter) : Parameter :=
  { parameter with
    ordinal := parameter.ordinal + offset
    name := placeholder (parameter.ordinal + offset) }

end Parameter

/-- The body of a WHERE clause. -/
structure Clause where
  sql : String
  parameters : List Parameter
deriving DecidableEq

/-- A statement ready to run. -/
structure Command where
  sql : String
  parameters : List Parameter
deriving DecidableEq

namespace Command

/-- A statement without parameters. -/
def ofText (sql : String) : Command := ⟨sql, []⟩

/-- The parameter with a placeholder name. -/
def parameter? (command : Command) (name : String) : Option Parameter :=
  command.parameters.find? fun parameter => parameter.name == name

end Command

end RowPayload
