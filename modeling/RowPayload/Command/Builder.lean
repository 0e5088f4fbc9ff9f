import RowPayload.Command.Basic
import RowPayload.Command.Placeholder

/-!
# Building commands

A builder collects statement text and bound values and numbers the placeholders
from one sequence. A compiled clause is either the seed of a builder, and keeps its
ordinals, or spliced in later, and has them shifted past what is bound by then.
-/

namespace RowPayload

/-- A piece of a command being built. -/
inductive CommandPart where
  | text (sql : String)
  | parameter (ordinal : Nat)
deriving DecidableEq

/-- A command being built. -/
structure CommandBuilder where
  parts : List CommandPart
  parameters : List Parameter
deriving DecidableEq

namespace CommandBuilder

/-- Nothing is written and nothing bound. -/
def empty : CommandBuilder := ⟨[], []⟩

/-- Nothing is written, and the parameters of a clause are bound. -/
def seeded (clause : Clause) : CommandBuilder := ⟨[], clause.parameters⟩

/-- Append statement text. -/
def sql (builder : CommandBuilder) (text : String) : CommandBuilder :=
  { builder with parts := builder.parts ++ [.text text] }

/-- The type a value is bound as: an untyped null, and binary data for bytes. -/
def bindingType (value : Value) : Option SqlType :=
  match value with
  | .bytes _ => some .varBinary
  | other => SqlType.of? other

/-- Append a placeholder for a value, bound against a column if one is given. -/
def bind (builder : CommandBuilder) (column : Option String) (value : Value) : CommandBuilder :=
  let ordinal := builder.parameters.length
  let parameter := { Parameter.make ordinal (bindingType value) value with column := column }
  ⟨builder.parts ++ [.parameter ordinal], builder.parameters ++ [parameter]⟩

/-- Append a clause with its placeholders shifted past what is bound. -/
def splice (builder : CommandBuilder) (clause : Clause) : CommandBuilder :=
  let offset := builder.parameters.length
  ⟨builder.parts ++ [.text (Placeholder.shift offset clause.sql)],
    builder.parameters ++ clause.parameters.map (Parameter.shift offset)⟩

/-- The number of bound parameters. -/
def parameterCount (builder : CommandBuilder) : Nat := builder.parameters.length

/-- The text of a part. -/
def partText : CommandPart → String
  | .text sql => sql
  | .parameter ordinal => placeholder ordinal

/-- The finished command. -/
def build (builder : CommandBuilder) : Command :=
  ⟨String.join (builder.parts.map partText), builder.parameters⟩

end CommandBuilder

end RowPayload
