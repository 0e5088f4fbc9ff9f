import Mathlib
import RowPayload.Proofs.Engine.View
import RowPayload.Proofs.Mapping.Quoting
import RowPayload.Proofs.Sample
import RowPayload.Proofs.Sql.Acceptance
import RowPayload.Proofs.Text.Cutting

/-!
# Table names in code and in statements

A table is filed under the text it is created with, cut at its dots and each part without the
blanks around it and the brackets that enclose it. A statement names the table by the same text,
but there the lexer has taken the brackets off, and what it read is cut, trimmed and stripped once
more. The two come to the same for bare parts. A part in brackets keeps its dots and its outer
blanks in the one reading and loses them in the other, so the two agree exactly if there are none.
-/

namespace RowPayload

open Sql (Token Spells Splits IsName IsPart Reads tokenize tableName)
open Text (pieces piecesAfter isBlank lower trim trimEnd trimStart)

namespace Engine

/-! ## Parts -/

/-- What a part of a name is filed as. -/
def filePart (part : List Char) : List Char := lower (Bracket.stripCharacters (trim part))

/-- The parts that a name is filed by. -/
def fileParts (name : List Char) : List (List Char) := (pieces '.' name).map filePart

/-- A dot is no letter in another case. -/
theorem toLower_eq_dot {c : Char} (lowered : c.toLower = '.') : c = '.' := by
  unfold Char.toLower at lowered
  split at lowered
  · rename_i upper
    have value := congrArg (fun c => c.val.toNat) lowered
    have atLeast := UInt32.le_iff_toNat_le.1 upper.1
    have atMost := UInt32.le_iff_toNat_le.1 upper.2
    simp only [Char.reduceVal, UInt32.reduceSub, UInt32.toNat_add, Char.toNat_val,
      UInt32.reduceToNat, Nat.reducePow] at value atLeast atMost
    omega
  · exact lowered

/-- There is no dot in what is filed if there was none. -/
theorem not_mem_filePart {part : List Char} (absent : '.' ∉ part) : '.' ∉ filePart part := by
  intro member
  obtain ⟨c, inside, lowered⟩ := List.mem_map.1 member
  rw [toLower_eq_dot lowered] at inside
  exact absent ((Text.trim_sublist part).subset
    ((Bracket.stripCharacters_sublist (trim part)).subset inside))

/-- Names are filed the same exactly if their parts are. -/
theorem fileName_eq_iff (left right : String) :
    fileName left = fileName right ↔ fileParts left.toList = fileParts right.toList := by
  have cut (name : List Char) : pieces '.' (fileNameCharacters name) = fileParts name := by
    apply Text.pieces_join
    · simp [Text.pieces_ne_nil]
    · intro part member
      obtain ⟨piece, inside, rfl⟩ := List.mem_map.1 member
      exact not_mem_filePart (Text.not_mem_of_mem_pieces piece inside)
  constructor
  · intro same
    have characters : fileNameCharacters left.toList = fileNameCharacters right.toList := by
      simpa [fileName] using congrArg String.toList same
    rw [← cut, ← cut, characters]
  · intro same
    exact congrArg (fun parts => String.ofList (Text.join ['.'] parts)) same

/-- A quoted part that is filed as it stands: without a dot, and without blanks at its ends. -/
def PlainPart (part : String) : Prop := '.' ∉ part.toList ∧ trim part.toList = part.toList

variable {before spelled after following : List Char}

/-- Blanks around a part do not matter. -/
theorem filePart_surrounded (blankBefore : ∀ c ∈ before, isBlank c = true)
    (blankAfter : ∀ c ∈ after, isBlank c = true) (part : List Char) :
    filePart (before ++ part ++ after) = filePart part := by
  rw [filePart, Text.trim_surrounded blankBefore blankAfter, ← filePart]

/-- There is no dot among blanks. -/
theorem not_mem_of_blank (blank : ∀ c ∈ before, isBlank c = true) : '.' ∉ before := by
  intro member
  exact absurd (blank '.' member) (by decide)

/-- A part in brackets is filed without them, as it is. -/
theorem filePart_bracketed (name : List Char) :
    filePart ('[' :: (name ++ [']'])) = lower name := by
  have trimmed : trim ('[' :: (name ++ [']'])) = '[' :: (name ++ [']']) := by
    rw [trim, Text.trimStart_cons (by decide)]
    exact Text.trimEnd_append (by decide) ('[' :: name) []
  rw [filePart, trimmed, Bracket.stripCharacters_enclosed]

/-- A part without a closing bracket is filed without its outer blanks. -/
theorem filePart_of_not_mem {part : List Char} (closed : ']' ∉ part) :
    filePart part = lower (trim part) := by
  rw [filePart, Bracket.stripCharacters_of_not_mem fun member =>
    closed ((Text.trim_sublist part).subset member)]

/-- A part without a closing bracket is filed as it is exactly if it has no outer blanks. -/
theorem filePart_eq_lower {part : List Char} (closed : ']' ∉ part) :
    filePart part = lower part ↔ trim part = part := by
  rw [filePart_of_not_mem closed]
  constructor
  · intro same
    have lengths := congrArg List.length same
    rw [lower, lower, List.length_map, List.length_map] at lengths
    exact (Text.trim_sublist part).eq_of_length lengths
  · intro same
    rw [same]

/-- What stands before the first dot of a name in brackets is not filed the same with the opening
bracket as without it. -/
theorem filePart_opened_ne (blankBefore : ∀ c ∈ before, isBlank c = true) {part : List Char}
    (closed : ']' ∉ part) : filePart (before ++ '[' :: part) ≠ filePart part := by
  have closedOpened : ']' ∉ '[' :: part := by simpa using closed
  have opened : filePart (before ++ '[' :: part) = lower ('[' :: trimEnd part) := by
    have surrounded := @filePart_surrounded before [] blankBefore nofun ('[' :: part)
    rw [List.append_nil] at surrounded
    rw [surrounded, filePart_of_not_mem closedOpened, trim, Text.trimStart_cons (by decide)]
    exact congrArg lower (Text.trimEnd_append (by decide) [] part)
  rw [opened, filePart_of_not_mem closed, ← Text.trim_trimEnd]
  intro same
  have lengths := congrArg List.length same
  have shorter := (Text.trim_sublist (trimEnd part)).length_le
  simp only [lower, List.length_map, List.length_cons] at lengths
  omega

/-! ## Names -/

variable {token : Token} {part : String} {rest nameRest : List Char}

/-- A name is filed by what stands before its first dot, and the parts after it. -/
theorem fileParts_apart {part : List Char} (absent : '.' ∉ part)
    (apart : ∀ c ∈ rest.head?, c = '.') :
    fileParts (part ++ rest) = filePart part :: (piecesAfter '.' rest).map filePart := by
  rw [fileParts, Text.pieces_apart absent apart, List.map_cons]

/-- A text that begins with a dot begins with no other character. -/
theorem apart_dot (rest : List Char) : ∀ c ∈ ('.' :: rest).head?, c = '.' := by
  rintro _ ⟨⟩
  rfl

/-- One part of a name, as it is written with blanks around it and as it is read, is filed the same
exactly if it is bare or plain, and if so are the parts after it. -/
theorem fileParts_part (isPart : IsPart token part)
    (blankBefore : ∀ c ∈ before, isBlank c = true) (blankAfter : ∀ c ∈ after, isBlank c = true)
    (spells : Spells spelled token following) (apart : ∀ c ∈ rest.head?, c = '.')
    (nameApart : ∀ c ∈ nameRest.head?, c = '.') :
    fileParts (part.toList ++ nameRest) = fileParts (before ++ spelled ++ after ++ rest) ↔
      (∀ name, token = .quoted name → PlainPart name) ∧
        (piecesAfter '.' nameRest).map filePart = (piecesAfter '.' rest).map filePart := by
  have apartOf {text : List Char} (absent : '.' ∉ text) :
      fileParts (before ++ text ++ after ++ rest) =
        filePart text :: (piecesAfter '.' rest).map filePart := by
    have noDot : '.' ∉ before ++ text ++ after := by
      simp only [List.mem_append, not_or]
      exact ⟨⟨not_mem_of_blank blankBefore, absent⟩, not_mem_of_blank blankAfter⟩
    rw [fileParts_apart noDot apart, filePart_surrounded blankBefore blankAfter]
  cases isPart with
  | word =>
    obtain ⟨rfl, wordCharacters⟩ := spells.of_word
    have absent : '.' ∉ part.toList := by
      intro member
      exact absurd (wordCharacters '.' member) (by decide)
    rw [apartOf absent, fileParts_apart absent nameApart, List.cons_inj_right]
    exact (and_iff_right nofun).symm
  | quoted =>
    obtain ⟨rfl, closed⟩ := spells.of_quoted
    by_cases dotted : '.' ∈ part.toList
    · -- The text keeps the opening bracket in front of the first dot.
      obtain ⟨first, others, whole, absent⟩ := List.eq_append_cons_of_mem dotted
      have closedFirst : ']' ∉ first := by
        rw [whole, List.mem_append, not_or] at closed
        exact closed.1
      have absentOpened : '.' ∉ before ++ '[' :: first := by
        simp only [List.mem_append, List.mem_cons, not_or]
        exact ⟨not_mem_of_blank blankBefore, by decide, absent⟩
      have text : before ++ '[' :: (part.toList ++ [']']) ++ after ++ rest =
          before ++ '[' :: first ++ '.' :: (others ++ [']'] ++ after ++ rest) := by
        simp [whole]
      have nameText : part.toList ++ nameRest = first ++ '.' :: (others ++ nameRest) := by
        simp [whole]
      refine iff_of_false ?_ fun plain => (plain.1 part rfl).1 dotted
      rw [text, nameText, fileParts_apart absent (apart_dot _),
        fileParts_apart absentOpened (apart_dot _)]
      intro same
      exact filePart_opened_ne blankBefore closedFirst (List.cons.inj same).1.symm
    · have absent : '.' ∉ '[' :: (part.toList ++ [']']) := by simpa using dotted
      rw [apartOf absent, fileParts_apart dotted nameApart, filePart_bracketed, List.cons.injEq,
        filePart_eq_lower closed]
      refine and_congr_left fun _ => ⟨?_, fun plain => (plain part rfl).2⟩
      rintro trimmed _ ⟨⟩
      exact ⟨dotted, trimmed⟩

/-- The characters of parts with dots between them. -/
theorem toList_intercalate (parts : List String) :
    (".".intercalate parts).toList = Text.join ['.'] (parts.map String.toList) := by
  induction parts with
  | nil => rfl
  | cons part others inductionHypothesis =>
    cases others with
    | nil => rw [String.intercalate_singleton]; rfl
    | cons second more =>
      rw [String.intercalate_cons_of_ne_nil (by simp), String.toList_append,
        String.toList_append, inductionHypothesis]
      rfl

/-- A name has parts. -/
theorem ne_nil_of_isName {tokens : List Token} {parts : List String}
    (isName : IsName tokens parts) : parts ≠ [] := by
  cases isName <;> simp

/-- A name as it is written and as it is read is filed by the same parts exactly if all of its
quoted parts are plain. -/
theorem fileParts_name {text : List Char} {tokens : List Token} {parts : List String}
    (splits : Splits text tokens) (isName : IsName tokens parts) :
    fileParts (".".intercalate parts).toList = fileParts text ↔
      ∀ name, .quoted name ∈ tokens → PlainPart name := by
  rw [toList_intercalate]
  induction isName generalizing text with
  | @last token part isPart =>
    obtain ⟨before, spelled, after, rfl, blankBefore, spells, nothing⟩ := splits.uncons
    have apart : ∀ c ∈ ([] : List Char).head?, c = '.' := nofun
    have one := fileParts_part isPart blankBefore nothing.blank_of_nil spells apart apart
    rw [List.append_nil, List.append_nil, List.append_assoc] at one
    simpa [eq_comm, piecesAfter, Text.join] using one
  | @more token part tokens parts isPart isName inductionHypothesis =>
    obtain ⟨before, spelled, following, rfl, blankBefore, spells, dotted⟩ := splits.uncons
    obtain ⟨after, dot, rest, rfl, blankAfter, isDot, others⟩ := dotted.uncons
    obtain rfl := isDot.of_dot
    have next := fileParts_part isPart blankBefore blankAfter spells (apart_dot rest)
      (apart_dot (Text.join ['.'] (parts.map String.toList)))
    have whole : before ++ (spelled ++ (after ++ (['.'] ++ rest))) =
        before ++ spelled ++ after ++ '.' :: rest := by simp
    have joined : Text.join ['.'] ((part :: parts).map String.toList) =
        part.toList ++ '.' :: Text.join ['.'] (parts.map String.toList) := by
      cases parts with
      | nil => exact absurd rfl (ne_nil_of_isName isName)
      | cons second more => exact List.append_assoc part.toList ['.'] _
    rw [whole, joined, next]
    have following : (piecesAfter '.' ('.' :: Text.join ['.'] (parts.map String.toList))).map
        filePart = (piecesAfter '.' ('.' :: rest)).map filePart ↔
          ∀ name, .quoted name ∈ tokens → PlainPart name := inductionHypothesis others
    rw [following]
    simp only [List.mem_cons, reduceCtorEq, false_or, or_imp, forall_and, eq_comm (a := token)]

/-! ## Tables -/

/-- A connection that is ready sees a table that was created under the name it is filed by. -/
theorem Server.view_createTable {server : Server} {id : Nat}
    (ready : server.connection id = .ready) (table : Table) (file : String) :
    (server.createTable table).view id file =
      if file = fileName table.name then some table else server.view id file := by
  have readyAfter : (server.createTable table).connection id = .ready := ready
  rw [view, view, readyAfter, ready]
  exact OrderedMap.get?_insert _ _ _ _

/-- So does a transaction that begins then. -/
theorem Server.view_createTable_begun {server : Server} {id : Nat} {table : Table}
    (done : ((server.createTable table).beginTransaction id).1 = .ok ()) (file : String) :
    ((server.createTable table).beginTransaction id).2.view id file =
      if file = fileName table.name then some table else server.catalog.get? file := by
  rw [view, connection_begun done]
  exact OrderedMap.get?_insert _ _ _ _

/-- **A table is reached by the text it was created with exactly if its quoted parts are plain.**
Where a text that is read to its end as the name of a table stands in a statement, the name read is
always the same. It is filed as the text is exactly if no part in brackets has a dot in it or a
blank at an end. Then a table created with the text is what a ready connection finds by the name,
and so does a transaction that begins on it; otherwise creating the table makes no difference to
what is found. -/
theorem table_reached_by_text {text name : String} {written : List Token}
    (read : tokenize text = .ok written) (isName : Reads (tableName written) name []) :
    (∀ following, following.head? ≠ some .dot →
      Reads (tableName (written ++ following)) name following) ∧
    (fileName name = fileName text ↔ ∀ part, .quoted part ∈ written → PlainPart part) ∧
    ∀ (server : Server) (table : Table) (id : Nat) (parameters : List Parameter),
      table.name = text → server.connection id = .ready →
      let created := server.createTable table
      let begun := created.beginTransaction id
      ((∀ part, .quoted part ∈ written → PlainPart part) →
        (created.scene (created.connection id) parameters).table name = .ok table ∧
        (begun.1 = .ok () →
          (begun.2.scene (begun.2.connection id) parameters).table name = .ok table)) ∧
      ((¬ ∀ part, .quoted part ∈ written → PlainPart part) →
        (created.scene (created.connection id) parameters).table name =
          (server.scene (server.connection id) parameters).table name) := by
  obtain ⟨fits, found⟩ := isName
  obtain ⟨tokens, parts, start, spelled, rfl⟩ := Sql.tableName_sound found
  obtain rfl : written = tokens := by rw [start, List.append_nil]
  have filed : fileName (".".intercalate parts) = fileName text ↔
      ∀ part, .quoted part ∈ written → PlainPart part :=
    (fileName_eq_iff _ _).trans (fileParts_name (Sql.tokenize_iff.1 read) spelled)
  refine ⟨fun following noDot => spelled.readTable noDot, filed, ?_⟩
  rintro server table id parameters rfl ready created begun
  have seen := Server.view_createTable ready table (fileName (".".intercalate parts))
  constructor
  · intro plain
    rw [if_pos (filed.2 plain)] at seen
    refine ⟨Server.table_of_view seen parameters, fun done => ?_⟩
    apply Server.table_of_view
    rw [Server.view_createTable_begun done, if_pos (filed.2 plain)]
  · intro notPlain
    rw [if_neg fun same => notPlain (filed.1 same)] at seen
    rw [Scene.table, Scene.table, Server.table?_scene, Server.table?_scene, seen]

/-- A table in a schema, with brackets around the one and blanks around the dot. -/
theorem table_reached_by_text_schema :
    ((Sample.connected.createTable (Table.empty "[dbo] . Recordings")).scene
        ((Sample.connected.createTable (Table.empty "[dbo] . Recordings")).connection 0) []).table
      "dbo.Recordings" = .ok (Table.empty "[dbo] . Recordings") := by
  have read : tokenize "[dbo] . Recordings" =
      .ok [.quoted "dbo", .dot, .word "Recordings"] := by cbv
  have isName : Reads (tableName [.quoted "dbo", .dot, .word "Recordings"]) "dbo.Recordings" [] :=
    (IsName.more (.quoted "dbo") (.last (.word "Recordings"))).readTable (by simp)
  have plain : ∀ part, Token.quoted part ∈ [.quoted "dbo", .dot, .word "Recordings"] →
      PlainPart part := by
    intro part member
    obtain rfl : part = "dbo" := by simpa using member
    exact ⟨by decide, by decide⟩
  obtain ⟨-, -, reached⟩ := table_reached_by_text read isName
  have found := reached Sample.connected (Table.empty "[dbo] . Recordings") 0 [] rfl rfl
  exact (found.1 plain).1

/-- A table whose name in brackets has a dot in it, or a blank at an end, is not found by it. -/
theorem quoted_table_not_reached :
    (tokenize "[a.b]" = .ok [.quoted "a.b"] ∧ Reads (tableName [.quoted "a.b"]) "a.b" [] ∧
      fileName "a.b" ≠ fileName "[a.b]") ∧
    (tokenize "[ a ]" = .ok [.quoted " a "] ∧ Reads (tableName [.quoted " a "]) " a " [] ∧
      fileName " a " ≠ fileName "[ a ]") ∧
    ((Sample.connected.createTable (Table.empty "[a.b]")).scene .ready []).table "a.b" =
      .error (.unknownTable "a.b") := by
  have dotted : Reads (tableName [.quoted "a.b"]) "a.b" [] :=
    (IsName.last (.quoted "a.b")).readTable (by simp)
  have blank : Reads (tableName [.quoted " a "]) " a " [] :=
    (IsName.last (.quoted " a ")).readTable (by simp)
  exact ⟨⟨by cbv, dotted, by decide⟩, ⟨by cbv, blank, by decide⟩, rfl⟩

end Engine

end RowPayload
