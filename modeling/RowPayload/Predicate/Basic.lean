import RowPayload.Ambient
import RowPayload.Scalar
import RowPayload.Mapping.Descriptor

/-!
# Filters

A predicate is a filter over the properties of a record. Any tree can be written
and shown; which trees have a compiled form is the matter of `Predicate.compile`.
-/

namespace RowPayload

/-- A filter over the properties of a record. -/
inductive Predicate (ε : Type) where
  | column (property : String)
  | value (source : ValueSource ε)
  | binary (op : BinaryOperator) (left right : Predicate ε)
  | negation (inner : Predicate ε)

namespace Predicate

variable {ε : Type}

/-- A fixed value. -/
def literal (value : Value) : Predicate ε := .value (.literal value)

/-- A value produced when the filter is compiled. -/
def captured (produce : ε → Value × ε) : Predicate ε := .value (.captured produce)

/-- A property equals a value. -/
def columnEquals (property : String) (value : Value) : Predicate ε :=
  .binary .equal (.column property) (literal value)

/-- The identifier equals a value. -/
def identity (descriptor : Descriptor) (value : Value) : Except Error (Predicate ε) :=
  descriptor.requireIdentifier.map fun property => columnEquals property value

/-- An enumeration property equals a member. -/
def enumerationEquals {α : Type} (enumeration : Enumeration α) (property : String)
    (member : α) : Predicate ε :=
  columnEquals property (enumeration.encode member)

/-- The filter as people read it. -/
def toText : Predicate ε → String
  | .column property => property
  | .value (.literal fixed) => fixed.toText
  | .value (.captured _) => "<captured>"
  | .binary op left right => "(" ++ left.toText ++ " " ++ op.sql ++ " " ++ right.toText ++ ")"
  | .negation inner => "(NOT " ++ inner.toText ++ ")"

end Predicate

end RowPayload
