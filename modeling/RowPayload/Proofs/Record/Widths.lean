import RowPayload.Proofs.Record.Rebuilding
import RowPayload.Scalar

/-!
# Numbers at every width

An integer is stored at one of four widths and may be read at another. Whoever reads it, a column
type or a program that asks for a width, is given the number at the width that was asked for, or a
mismatch if the number does not fit; no number is ever cut. The numbers of an enumeration are
stored at its declared width or else at the widest, so that a member always comes back, and a field
of the declared type shows the stored value or refuses it.
-/

namespace RowPayload

/-! ## Widths -/

namespace IntegerWidth

variable {width : IntegerWidth} {number : Int}

/-- A number that fits a width has a value of the width. -/
theorem exists_value? (fits : width.holds number = true) :
    ∃ value, width.value? number = some value := by
  unfold value?
  rw [if_pos fits]
  exact ⟨_, rfl⟩

/-- A number that does not fit a width has no value of the width. -/
theorem value?_eq_none (wide : width.holds number = false) : width.value? number = none := by
  unfold value?
  rw [if_neg (by simp [wide])]

end IntegerWidth

/-! ## Reading -/

/-- What comes of reading a number at a width: the value of the width that has the number, or a
mismatch if the number does not fit. -/
inductive Narrowed (width : IntegerWidth) (number : Int) (mismatch : Error) :
    Except Error Value → Prop where
  | kept {held : Value} (fits : width.holds number = true)
      (stored : width.value? number = some held) (same : held.integer? = some number) :
      Narrowed width number mismatch (.ok held)
  | refused (wide : width.holds number = false) : Narrowed width number mismatch (.error mismatch)

/-- Whoever answers the value of a width, or a mismatch if there is none, has narrowed the
number. -/
theorem Narrowed.of_value? (width : IntegerWidth) (number : Int) (mismatch : Error) :
    Narrowed width number mismatch (match width.value? number with
      | some held => .ok held
      | none => .error mismatch) := by
  cases fits : width.holds number with
  | true =>
    obtain ⟨held, stored⟩ := IntegerWidth.exists_value? fits
    rw [stored]
    exact .kept fits stored (IntegerWidth.integer?_value? stored)
  | false =>
    rw [IntegerWidth.value?_eq_none fits]
    exact .refused fits

section

variable {value : Value} {number : Int} {width : IntegerWidth}

/-- An integer type reads a value as the number's value of its width. -/
theorem SqlType.fit?_of_integer? {type : SqlType} (integral : type.width? = some width)
    (stored : value.integer? = some number) : type.fit? value = width.value? number := by
  rw [fit?, integral]
  dsimp only
  rw [stored, Option.bind_some]

/-- An integer type reads every number that fits and refuses the others. -/
theorem SqlType.narrowed_read {type : SqlType} (integral : type.width? = some width)
    (stored : value.integer? = some number) (column : String) :
    Narrowed width number (.typeMismatch column type.sql value.typeName)
      (type.read column value) := by
  rw [SqlType.read, fit?_of_integer? integral stored]
  exact .of_value? width number _

/-- An integer type reads the value of its own width unchanged. -/
theorem SqlType.read_of_value? {type : SqlType} (integral : type.width? = some width)
    (stored : width.value? number = some value) (column : String) :
    type.read column value = .ok value := by
  rw [SqlType.read, fit?_of_integer? integral (IntegerWidth.integer?_value? stored), stored]

/-- A program that asks for a width is given every number that fits, and no other. -/
theorem Scalar.narrowed_decode (width : IntegerWidth) (stored : value.integer? = some number) :
    Narrowed width number (.typeMismatch "" (Scalar.integer width).typeName value.typeName)
      ((Scalar.integer width).decode value) := by
  rw [decode, fit?, stored, Option.bind_some]
  exact .of_value? width number _

end

/-! ## Enumerations -/

namespace Enumeration

variable {α : Type} (enumeration : Enumeration α) {member : α}

/-- The width of an integer type that is declared is the width of the enumeration. -/
theorem width?_storage (integral : enumeration.storage.isInteger = true) :
    enumeration.storage.width? = some enumeration.width := by
  unfold width
  cases storage : enumeration.storage <;> rw [storage] at integral <;> first | rfl | cases integral

/-- A member is stored at the declared width if its number fits. -/
theorem value?_encode (fits : enumeration.width.holds (enumeration.toStorage member) = true) :
    enumeration.width.value? (enumeration.toStorage member) = some (enumeration.encode member) := by
  obtain ⟨value, stored⟩ := IntegerWidth.exists_value? fits
  simp only [encode, stored, Option.getD_some]

/-- A member is stored at the widest width if its number does not fit the declared one. -/
theorem encode_of_wide (wide : enumeration.width.holds (enumeration.toStorage member) = false) :
    enumeration.encode member = .bigInt (Int64.ofInt (enumeration.toStorage member)) := by
  simp only [encode, IntegerWidth.value?_eq_none wide, Option.getD_none]

/-- A member is stored with its number. -/
theorem integer?_encode (inside : IntegerWidth.big.holds (enumeration.toStorage member) = true) :
    (enumeration.encode member).integer? = some (enumeration.toStorage member) := by
  cases fits : enumeration.width.holds (enumeration.toStorage member) with
  | true => exact IntegerWidth.integer?_value? (enumeration.value?_encode fits)
  | false =>
    rw [enumeration.encode_of_wide fits]
    have widest : IntegerWidth.big.value? (enumeration.toStorage member) =
        some (.bigInt (Int64.ofInt (enumeration.toStorage member))) := by
      unfold IntegerWidth.value?
      rw [if_pos inside]
    exact IntegerWidth.integer?_value? widest

/-- A field of the declared type reads the stored form of a member unchanged if its number fits,
and refuses it otherwise. -/
theorem read_encode (integral : enumeration.storage.isInteger = true)
    (inside : IntegerWidth.big.holds (enumeration.toStorage member) = true) {type : FieldType}
    (declared : type.sql = enumeration.storage) (column : String) :
    type.read column (enumeration.encode member) =
      if enumeration.width.holds (enumeration.toStorage member) = true then
        .ok (enumeration.encode member)
      else .error (.typeMismatch column enumeration.storage.sql "i64") := by
  have width := enumeration.width?_storage integral
  have number := enumeration.integer?_encode inside
  have notNull : (enumeration.encode member).isNull = false := by
    cases encoded : enumeration.encode member <;> first | rfl | (rw [encoded] at number; cases number)
  rw [FieldType.read, notNull, declared, integral]
  simp only [Bool.not_true, Bool.and_false, Bool.false_eq_true, if_false]
  cases fits : enumeration.width.holds (enumeration.toStorage member) with
  | true =>
    rw [if_pos rfl]
    exact SqlType.read_of_value? width (enumeration.value?_encode fits) column
  | false =>
    rw [if_neg (by decide), SqlType.read, SqlType.fit?_of_integer? width number,
      IntegerWidth.value?_eq_none fits, enumeration.encode_of_wide fits]
    rfl

end Enumeration

/-- **No number is cut between a record and a column.** A 64-bit number stored at any width that
holds it is read by every integer type, and by every program that asks for a width, as the value of
that width with the same number, or refused as a mismatch if it does not fit; what a type has read
it reads again unchanged. And an enumeration whose members are found by their numbers stores every
member with its number, at the declared width if it fits and else at the widest; the member is
found again, and a field of the declared integer type reads the stored value unchanged if the
number fits and refuses it as a mismatch otherwise. -/
theorem numbers_never_cut :
    (∀ (number : Int64) (width : IntegerWidth), width.holds number.toInt = true →
      ∃ stored, width.value? number.toInt = some stored ∧ stored.integer? = some number.toInt ∧
        (∀ (type : SqlType) (target : IntegerWidth), type.width? = some target → ∀ column,
          Narrowed target number.toInt (.typeMismatch column type.sql stored.typeName)
            (type.read column stored) ∧
          ∀ held, type.read column stored = .ok held →
            ∀ again, type.read again held = .ok held) ∧
        ∀ target, Narrowed target number.toInt
          (.typeMismatch "" (Scalar.integer target).typeName stored.typeName)
          ((Scalar.integer target).decode stored)) ∧
    ∀ {α : Type} (enumeration : Enumeration α),
      (∀ member, IntegerWidth.big.holds (enumeration.toStorage member) = true) →
      (∀ member, enumeration.ofStorage? (enumeration.toStorage member) = some member) →
      ∀ member,
        (enumeration.encode member).integer? = some (enumeration.toStorage member) ∧
        (if enumeration.width.holds (enumeration.toStorage member) = true then
          enumeration.width.value? (enumeration.toStorage member) =
            some (enumeration.encode member)
        else enumeration.encode member = .bigInt (Int64.ofInt (enumeration.toStorage member))) ∧
        enumeration.decode (enumeration.encode member) = .ok member ∧
        (enumeration.storage.isInteger = true → ∀ type : FieldType,
          type.sql = enumeration.storage → ∀ column,
            type.read column (enumeration.encode member) =
              if enumeration.width.holds (enumeration.toStorage member) = true then
                .ok (enumeration.encode member)
              else .error (.typeMismatch column enumeration.storage.sql "i64")) := by
  refine ⟨fun number width fits => ?_, fun enumeration inside inverts member => ?_⟩
  · obtain ⟨stored, is⟩ := IntegerWidth.exists_value? fits
    have same := IntegerWidth.integer?_value? is
    refine ⟨stored, is, same, fun type target integral column => ?_,
      fun target => Scalar.narrowed_decode target same⟩
    have narrowed := SqlType.narrowed_read integral same column
    refine ⟨narrowed, fun held read again => ?_⟩
    rw [read] at narrowed
    cases narrowed with
    | kept _ stored _ => exact SqlType.read_of_value? integral stored again
  · have number := enumeration.integer?_encode (inside member)
    refine ⟨number, ?_, ?_, fun integral type declared =>
      enumeration.read_encode integral (inside member) declared⟩
    · split
      · rename_i fits
        exact enumeration.value?_encode fits
      · rename_i wide
        exact enumeration.encode_of_wide (by simpa using wide)
    · rw [Enumeration.decode, number]
      dsimp only
      rw [inverts member]

namespace Sample

/-- What has become of a recording. -/
inductive Status where
  | draft
  | final
  | withdrawn
deriving DecidableEq

/-- The number of a status. The last one does not fit the width that is declared. -/
def Status.number : Status → Int
  | .draft => 0
  | .final => 1
  | .withdrawn => 300

/-- States of recordings are stored as small numbers. -/
def statuses : Enumeration Status where
  typeName := "Status"
  storage := .tinyInt
  toStorage := Status.number
  ofStorage? number := [Status.draft, .final, .withdrawn].find? fun status => status.number == number

end Sample

/-- The number 300 is read at 16 bits from 64 and refused at eight, and a status with that number
comes back from the column that a field of the declared type refuses to read. -/
theorem numbers_never_cut_statuses :
    IntegerWidth.big.holds 300 = true ∧
      Narrowed .small 300 (.typeMismatch "Status" "SMALLINT" "i64")
        (SqlType.smallInt.read "Status" (.bigInt 300)) ∧
      Narrowed .tiny 300 (.typeMismatch "" "u8" "i64")
        ((Scalar.integer .tiny).decode (.bigInt 300)) ∧
      (∀ status, IntegerWidth.big.holds (Sample.statuses.toStorage status) = true) ∧
      (∀ status, Sample.statuses.ofStorage? (Sample.statuses.toStorage status) = some status) ∧
      Sample.statuses.decode (Sample.statuses.encode .withdrawn) = .ok .withdrawn ∧
      (FieldType.enumerated .tinyInt).read "Status" (Sample.statuses.encode .withdrawn) =
        .error (.typeMismatch "Status" "TINYINT" "i64") := by
  have inside : ∀ status, IntegerWidth.big.holds (Sample.statuses.toStorage status) = true := by
    intro status
    cases status <;> decide
  have inverts : ∀ status,
      Sample.statuses.ofStorage? (Sample.statuses.toStorage status) = some status := by
    intro status
    cases status <;> decide
  obtain ⟨numbers, members⟩ := numbers_never_cut
  obtain ⟨stored, is, -, read, decoded⟩ := numbers 300 .big (by decide)
  obtain rfl : stored = .bigInt 300 := (Option.some.inj is).symm
  obtain ⟨-, -, found, fields⟩ := members Sample.statuses inside inverts .withdrawn
  exact ⟨by decide, (read .smallInt .small rfl "Status").1, decoded .tiny, inside, inverts, found,
    fields rfl (.enumerated .tinyInt) rfl "Status"⟩

end RowPayload
