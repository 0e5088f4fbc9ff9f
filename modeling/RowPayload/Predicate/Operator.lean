/-!
# Binary operators

The operators a filter can be written with. Only equality, conjunction and
disjunction have a compiled form.
-/

namespace RowPayload

/-- A binary operator of a filter. -/
inductive BinaryOperator where
  | equal
  | notEqual
  | less
  | lessOrEqual
  | greater
  | greaterOrEqual
  | conjunction
  | disjunction
deriving DecidableEq

namespace BinaryOperator

/-- The spelling in SQL. -/
def sql : BinaryOperator → String
  | .equal => "="
  | .notEqual => "<>"
  | .less => "<"
  | .lessOrEqual => "<="
  | .greater => ">"
  | .greaterOrEqual => ">="
  | .conjunction => "AND"
  | .disjunction => "OR"

/-- The name in descriptions. -/
def name : BinaryOperator → String
  | .equal => "Eq"
  | .notEqual => "NotEq"
  | .less => "Lt"
  | .lessOrEqual => "LtEq"
  | .greater => "Gt"
  | .greaterOrEqual => "GtEq"
  | .conjunction => "And"
  | .disjunction => "Or"

end BinaryOperator

end RowPayload
