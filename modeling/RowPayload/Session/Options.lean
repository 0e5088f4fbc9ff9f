import RowPayload.Predicate.Compile
import RowPayload.Session.Context

/-!
# Session options

What a session is asked to do: how the row is prepared, which access to its payload
is wanted, which row it is, what a new row would hold, and what runs before the
commit.
-/

namespace RowPayload

/-- What runs on the context after the payload is closed and before the commit. -/
abbrev CloseHook (σ ε : Type) := Scoped σ ε Unit

/-- What a session is asked to do. -/
structure Options (σ ε : Type) where
  mode : OpenMode
  access : Access
  filter : Predicate ε
  newRow : Option (NewRow ε)
  onClose : Option (CloseHook σ ε)

namespace Options

variable {σ ε : Type}

/-- Options that cannot work: a mode that inserts without a row to insert, and
appending without writing. -/
def validate (options : Options σ ε) : Except Error Unit :=
  if options.mode.createsRow ∧ options.newRow.isNone then
    .error (.invalidMode (.missingNewRow options.mode))
  else if options.mode = .append ∧ options.access = .read then
    .error (.invalidMode .appendReadOnly)
  else .ok ()

/-- The options as descriptions show them. -/
def describe (options : Options σ ε) : String :=
  let newRow := match options.newRow with
    | none => "None"
    | some row => "Some(" ++ row.describe ++ ")"
  "StreamOptions \x7b mode: " ++ options.mode.name ++ ", access: " ++ options.access.name ++
    ", filter: " ++ Text.quoted options.filter.toText ++ ", new_row: " ++ newRow ++
    ", on_close: " ++ (if options.onClose.isSome then "true" else "false") ++ " \x7d"

end Options

end RowPayload
