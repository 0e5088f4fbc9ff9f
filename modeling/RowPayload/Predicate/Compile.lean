import RowPayload.Predicate.Basic
import RowPayload.Command.Basic

/-!
# Compiling filters

A filter becomes the body of a WHERE clause: properties become their columns, values
become placeholders numbered in the order they are reached, and every operator has
its operands in parentheses. Operands are compiled from left to right, and an
operator is looked at after both of its operands, so that of several faults the
first in this order is reported.
-/

namespace RowPayload

/-- A compiled part of a filter. -/
inductive Fragment where
  | column (name : String)
  | parameter (ordinal : Nat)
  | sql (text : String)
deriving DecidableEq

namespace Fragment

/-- The text of a part. -/
def text : Fragment → String
  | .column name => name
  | .parameter ordinal => placeholder ordinal
  | .sql written => written

/-- Two parts with an operator between them, in parentheses. -/
def join (op : BinaryOperator) (left right : Fragment) : Fragment :=
  .sql ("(" ++ left.text ++ " " ++ op.sql ++ " " ++ right.text ++ ")")

end Fragment

namespace Predicate

variable {ε : Type}

/-- Note a column on the parameter with an ordinal. -/
def noteColumn (column : String) (ordinal : Nat) (bound : List Parameter) : List Parameter :=
  bound.modify ordinal fun parameter => { parameter with column := some column }

/-- The parameters after an operator: an equality of a column and a parameter notes
the column on the parameter. -/
def relate (op : BinaryOperator) (left right : Fragment) (bound : List Parameter) :
    List Parameter :=
  match op, left, right with
  | .equal, .column name, .parameter ordinal => noteColumn name ordinal bound
  | .equal, .parameter ordinal, .column name => noteColumn name ordinal bound
  | _, _, _ => bound

/-- Whether an operator has a compiled form. -/
def hasForm : BinaryOperator → Bool
  | .equal | .conjunction | .disjunction => true
  | _ => false

/-- Compile a filter after parameters that are bound already. -/
def visit (descriptor : Descriptor) :
    Predicate ε → List Parameter → Ambient ε (Fragment × List Parameter)
  | .column property, bound => do
    let name ← descriptor.column property
    return (.column name, bound)
  | .value source, bound => do
    let produced ← source.produce
    let type ← SqlType.infer produced
    return (.parameter bound.length,
      bound ++ [Parameter.make bound.length (some type) produced])
  | .binary op left right, bound => do
    let (leftPart, bound) ← visit descriptor left bound
    let (rightPart, bound) ← visit descriptor right bound
    if hasForm op then
      return (Fragment.join op leftPart rightPart, relate op leftPart rightPart bound)
    else throw (.unsupportedExpression (.operator op))
  | .negation _, _ => throw (.unsupportedExpression .negation)

/-- The WHERE clause of a filter. -/
def compile (descriptor : Descriptor) (predicate : Predicate ε) : Ambient ε Clause := do
  let (part, bound) ← visit descriptor predicate []
  return ⟨part.text, bound⟩

end Predicate

end RowPayload
