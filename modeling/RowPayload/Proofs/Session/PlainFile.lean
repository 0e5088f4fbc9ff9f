import RowPayload.Engine.Handle
import RowPayload.Proofs.Session.FileOperation

/-!
# Plain files

A plain file is a length, a byte at every place below it and a position. It says what
each call on a payload means, byte by byte; nothing of handles, transactions or
write-backs is in it. A handle that holds a plain file's bytes answers every call as the
plain file does and holds its bytes afterwards.
-/

namespace RowPayload

/-- A file as the bytes in it and a position. -/
structure PlainFile where
  length : Nat
  byte : Nat → UInt8
  position : Nat

namespace PlainFile

/-- A file of given bytes, at its start. -/
def ofContent (content : Bytes) : PlainFile where
  length := content.length
  byte place := content.getD place 0
  position := 0

/-- The bytes in the file. -/
def content (file : PlainFile) : Bytes := (List.range file.length).map file.byte

/-- The byte at a place, zero past the end. -/
def paddedByte (file : PlainFile) (place : Nat) : UInt8 :=
  if place < file.length then file.byte place else 0

/-- How many bytes a read of at most a number of bytes takes. -/
def available (file : PlainFile) (count : Nat) : Nat := min count (file.length - file.position)

/-- The bytes that a read takes from the position on. -/
def taken (file : PlainFile) (count : Nat) : Bytes :=
  (List.range (file.available count)).map fun offset => file.byte (file.position + offset)

/-- Writing puts bytes at the position, fills a gap before them with zeros and leaves every
other byte. -/
def write (file : PlainFile) (data : Bytes) : PlainFile where
  length := max file.length (file.position + data.length)
  byte place :=
    if file.position ≤ place ∧ place < file.position + data.length then
      data.getD (place - file.position) 0
    else file.paddedByte place
  position := file.position + data.length

/-- Setting the length cuts bytes off or adds zeros, and keeps the position. -/
def setLength (file : PlainFile) (length : Nat) : PlainFile where
  length := length
  byte := file.paddedByte
  position := file.position

/-- The place a seek goes to. -/
def target (file : PlainFile) : SeekTarget → Int
  | .start offset => offset
  | .fromEnd offset => file.length + offset
  | .fromCurrent offset => file.position + offset

/-- Seeking moves the position to any place of 64 bits, also past the end, and fails
otherwise, which leaves the position. -/
def seek (file : PlainFile) (destination : SeekTarget) : Except IoFault FileAnswer × PlainFile :=
  let place := file.target destination
  if 0 ≤ place ∧ place < ByteFile.positionBound then
    (.ok (.number place.toNat), { file with position := place.toNat })
  else (.error .badSeek, file)

/-- What a call answers and leaves, given the access the file was opened with. -/
def call (access : Access) (file : PlainFile) :
    FileOperation → Except IoFault FileAnswer × PlainFile
  | .read count =>
    if access.canRead then
      (.ok (.bytes (file.taken count)),
        { file with position := file.position + file.available count })
    else (.error .notReadable, file)
  | .write data =>
    if access.canWrite then (.ok (.number data.length), file.write data)
    else (.error .notWritable, file)
  | .seek destination => file.seek destination
  | .setLength length =>
    if access.canWrite then (.ok .done, file.setLength length) else (.error .notWritable, file)
  | .flush => (.ok .done, file)
  | .position => file.seek (.fromCurrent 0)
  | .length => (.ok (.number file.length), file)

/-! ## Handles hold plain files -/

/-- The bytes of the file with its position. -/
def toByteFile (file : PlainFile) : ByteFile := ⟨file.content, file.position⟩

@[simp] theorem length_content (file : PlainFile) : file.content.length = file.length := by
  simp [content]

@[simp] theorem content_ofContent (bytes : Bytes) : (ofContent bytes).content = bytes := by
  apply List.ext_getElem
  · simp [content, ofContent]
  · intro place below _
    have inside : place < bytes.length := by simpa [content, ofContent] using below
    simp [content, ofContent, inside]

/-- A read takes the bytes of the content from the position on. -/
theorem read_toByteFile (file : PlainFile) (count : Nat) :
    file.toByteFile.read count =
      (file.taken count, ⟨file.content, file.position + file.available count⟩) := by
  have same : (file.content.drop file.position).take count = file.taken count := by
    apply List.ext_getElem
    · simp [taken, available]
    · intro offset _ _
      simp [taken, content]
  have length : (file.taken count).length = file.available count := by simp [taken]
  simp only [ByteFile.read, toByteFile, same, length]

/-- The byte of the content at a place. -/
theorem getElem?_content (file : PlainFile) (place : Nat) :
    file.content[place]? = if place < file.length then some (file.byte place) else none := by
  by_cases held : place < file.length
  · simp [content, held]
  · simp [content, held]

/-- Resizing the content gives the padded bytes up to the new length. -/
theorem resize_content (file : PlainFile) (length : Nat) :
    ByteFile.resize file.content length = (List.range length).map file.paddedByte := by
  apply List.ext_getElem?
  intro place
  simp only [ByteFile.resize, List.getElem?_append, List.getElem?_take, List.length_take,
    length_content, getElem?_content, List.getElem?_replicate, List.getElem?_map]
  by_cases inside : place < length
  · by_cases held : place < file.length
    · have kept : place < min length file.length := by omega
      simp [inside, held, kept, paddedByte]
    · have past : ¬ place < min length file.length := by omega
      have filled : place - min length file.length < length - file.length := by omega
      simp [inside, held, past, filled, paddedByte]
  · have past : ¬ place < min length file.length := by omega
    have beyond : ¬ place - min length file.length < length - file.length := by omega
    simp [Nat.le_of_not_lt inside, past, beyond]

/-- A write to the bytes of the file writes the file. -/
theorem write_toByteFile (file : PlainFile) (data : Bytes) :
    file.toByteFile.write data = (file.write data).toByteFile := by
  have same : ByteFile.resize file.content file.position ++ data ++
      file.content.drop (file.position + data.length) = (file.write data).content := by
    apply List.ext_getElem?
    intro place
    rw [resize_content, getElem?_content]
    simp only [List.getElem?_append, List.length_append, List.length_map, List.length_range,
      List.getElem?_map, List.getElem?_drop, getElem?_content, write]
    by_cases before : place < file.position
    · have near : place < file.position + data.length := by omega
      have early : ¬ file.position ≤ place := by omega
      have inside : place < max file.length (file.position + data.length) := by omega
      simp [before, near, early, inside]
    · by_cases written : place < file.position + data.length
      · have here : file.position ≤ place ∧ place < file.position + data.length := by omega
        have inside : place < max file.length (file.position + data.length) := by omega
        have bound : place - file.position < data.length := by omega
        simp [before, written, here, inside, bound]
      · have late : ¬ (file.position ≤ place ∧ place < file.position + data.length) := by omega
        have place_eq : file.position + data.length +
            (place - (file.position + data.length)) = place := by omega
        have inside : place < max file.length (file.position + data.length) ↔
            place < file.length := by omega
        rw [if_neg late, if_neg written, place_eq]
        simp only [inside, paddedByte]
        split <;> rfl
  simp only [ByteFile.write, toByteFile, same]
  rfl

/-- Setting the length of the bytes of the file sets that of the file. -/
theorem setLength_toByteFile (file : PlainFile) (length : Nat) :
    file.toByteFile.setLength length = (file.setLength length).toByteFile := by
  simp only [ByteFile.setLength, toByteFile, resize_content]
  rfl

/-- A seek in the bytes of the file goes where one in the file goes. -/
theorem seek_toByteFile (file : PlainFile) (destination : SeekTarget) :
    file.toByteFile.seek destination =
      if 0 ≤ file.target destination ∧ file.target destination < ByteFile.positionBound then
        .ok ⟨file.content, (file.target destination).toNat⟩
      else .error .badSeek := by
  have same : file.toByteFile.target destination = file.target destination := by
    cases destination <;> simp [ByteFile.target, target, toByteFile, ByteFile.length]
  simp only [ByteFile.seek, same]
  rfl

end PlainFile

/-! ## Calls that alter nothing -/

/-- Whether a call may alter the bytes of a payload. -/
def FileOperation.alters : FileOperation → Bool
  | .write _ | .setLength _ => true
  | .read _ | .seek _ | .flush | .position | .length => false

namespace PlainFile

/-- A seek leaves the bytes of a file as they are. -/
theorem content_seek (file : PlainFile) (destination : SeekTarget) :
    (file.seek destination).2.content = file.content := by
  unfold seek
  dsimp only
  split <;> rfl

/-- A call that alters nothing leaves the bytes of a file as they are. -/
theorem content_call {operation : FileOperation} (keeps : operation.alters = false)
    (access : Access) (file : PlainFile) :
    (file.call access operation).2.content = file.content := by
  cases operation with
  | write | setLength => cases keeps
  | seek destination => exact file.content_seek destination
  | position => exact file.content_seek (.fromCurrent 0)
  | flush | length => rfl
  | read =>
    rw [call]
    split <;> rfl

end PlainFile

end RowPayload
