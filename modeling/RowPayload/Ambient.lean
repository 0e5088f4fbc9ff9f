import RowPayload.Error
import RowPayload.Work

/-!
# Values from the surroundings

A `ValueSource` is a fixed value, or one that is produced when a statement is
built. Producing a value may read and change the surroundings, a state of type `ε`
that all captured sources share; every source that is reached is evaluated once.
-/

namespace RowPayload

/-- Work that reads and changes the surroundings. -/
abbrev Ambient (ε : Type) := Work Error ε

/-- Where a bound value comes from. -/
inductive ValueSource (ε : Type) where
  | literal (value : Value)
  | captured (produce : ε → Value × ε)

namespace ValueSource

variable {ε : Type}

/-- The value, and the surroundings after producing it. -/
def evaluate : ValueSource ε → ε → Value × ε
  | .literal value, surroundings => (value, surroundings)
  | .captured produce, surroundings => produce surroundings

/-- The value as a step of ambient work. -/
def produce (source : ValueSource ε) : Ambient ε Value :=
  ExceptT.lift (source.evaluate : StateM ε Value)

/-- The source as descriptions show it. -/
def describe : ValueSource ε → String
  | .literal value => "Literal(" ++ value.describe ++ ")"
  | .captured _ => "Captured(..)"

end ValueSource

end RowPayload
