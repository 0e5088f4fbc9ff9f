import RowPayload.Proofs.Lifecycle.Naming
import RowPayload.Proofs.Mapping.Quoting

/-!
# What the query for the handle projects

A mapping may write a column in every way in which SQL writes names: as a word or in brackets,
qualified by other names, with blanks around it, in any letters. If all columns are names, the query
for the handle shows one column for each mapped property, after the path locator and the token and
in the order of the mapping: the one that the last part of the name calls. Nothing is asked of the
name of the table.

A column is written plainly if the last part is all there is: then the name that SQL reads is the
text of the mapping without its brackets.
-/

namespace RowPayload

open Sql

variable {descriptor : Descriptor}

/-! ## Columns -/

/-- Every mapped column of a descriptor is written as a name. -/
def Descriptor.ColumnsNamed (descriptor : Descriptor) : Prop :=
  ∀ property column, descriptor.columns.get? property = some column →
    ∃ tokens parts, tokenize column = .ok tokens ∧ IsName tokens parts

/-- SQL reads a name as a column with a last part. -/
def Descriptor.Calls (column name : String) : Prop :=
  ∃ tokens, tokenize column = .ok tokens ∧ IsColumn tokens name

/-- A column is written as a name of one part with nothing around it: a word, or a name in
brackets. -/
inductive Descriptor.Plain : String → String → Prop where
  | word {name : String} (read : tokenize name = .ok [.word name]) : Plain name name
  | bracketed {name : String} (closed : ']' ∉ name.toList) (nonempty : name ≠ "") :
      Plain ("[" ++ name ++ "]") name

namespace Descriptor

variable {column name other : String}

/-- A word is not empty and has no brackets. -/
theorem word_of_tokenize (read : tokenize name = .ok [.word name]) :
    name ≠ "" ∧ ∀ c ∈ name.toList, isWordCharacter c = true := by
  constructor
  · rintro rfl
    have none : tokenize "" = .ok [] := by cbv
    rw [none] at read
    cases read
  · obtain ⟨_, _, _, -, -, spells, -⟩ := (tokenize_iff.1 read).uncons
    exact spells.of_word.2

namespace Plain

/-- The name of a plain column has no closing bracket. -/
theorem closed (plain : Plain column name) : ']' ∉ name.toList := by
  cases plain with
  | word read =>
    intro member
    have isWord := (word_of_tokenize read).2 _ member
    revert isWord
    decide
  | bracketed closed _ => exact closed

/-- The name of a plain column is not empty. -/
theorem nonempty (plain : Plain column name) : name ≠ "" := by
  cases plain with
  | word read => exact (word_of_tokenize read).1
  | bracketed _ nonempty => exact nonempty

/-- The name of a plain column is its text without brackets. -/
theorem strip_eq (plain : Plain column name) : Bracket.strip column = name := by
  cases plain with
  | word read => exact Bracket.strip_of_not_mem (Plain.word read).closed
  | bracketed _ _ => exact Bracket.strip_enclosed name

/-- SQL reads a plain column as its name. -/
theorem calls_iff (plain : Plain column name) : Calls column other ↔ other = name := by
  have single {token : Token} (read : tokenize column = .ok [token]) (isPart : IsPart token name) :
      Calls column other ↔ other = name := by
    constructor
    · rintro ⟨tokens, readToo, isName⟩
      rw [read] at readToo
      cases readToo
      cases isName with
      | ofName isName =>
        cases isName with
        | last isPartToo => cases isPart <;> cases isPartToo <;> rfl
    · rintro rfl
      exact ⟨_, read, .ofName (.last isPart)⟩
  cases plain with
  | word read => exact single read (.word _)
  | bracketed closed _ => exact single (tokenize_bracketed closed) (.quoted _)

end Plain

/-! ## The query -/

/-- Names are read in the query for the handle whatever the table is. -/
theorem ColumnsNamed.naming (named : descriptor.ColumnsNamed) :
    Nonempty (Lifecycle.Naming { descriptor with table := "t" }) := by
  obtain ⟨tokens, parts, read, isName⟩ := named _ _ descriptor.payload_mapped
  exact ⟨{
    tableTokens := [.word "t"]
    tableParts := ["t"]
    table_read := by cbv
    table_spelled := .last (.word "t")
    payloadTokens := tokens
    payloadParts := parts
    payload_read := read
    payload_spelled := isName
    columns_spelled := named }⟩

/-- The columns that names are read as are what their texts call. -/
theorem calls_of_names {texts : List String} {names : List (List Token)} {columns : List String}
    (read : texts.map tokenize = names.map .ok) (areColumns : List.Forall₂ IsColumn names columns) :
    List.Forall₂ Calls texts columns := by
  induction areColumns generalizing texts with
  | nil =>
    obtain rfl := List.map_eq_nil_iff.1 read
    exact .nil
  | cons isColumn _ inductionHypothesis =>
    obtain ⟨first, rest, rfl, firstRead, restRead⟩ := List.map_eq_cons_iff.1 read
    exact .cons ⟨_, firstRead, isColumn⟩ (inductionHypothesis restRead)

/-- **The query for the handle, if it is accepted, shows what the mapped columns call**, after the
path locator and the token. -/
theorem ColumnsNamed.handleQuery_items (named : descriptor.ColumnsNamed) {filter : Clause}
    {read : Statement}
    (parsed : parse (Lifecycle.handleQuery descriptor filter true).sql = .ok read) :
    ∃ query payload columns, read = .select query ∧
      query.items = .pathName payload :: .transactionContext :: columns.map .column ∧
      List.Forall₂ Calls (descriptor.scalarColumns.map Prod.snd) columns := by
  obtain ⟨naming⟩ := named.naming
  obtain ⟨names, each, spelled, shown⟩ := naming.shown_sealed true
  have text : (Lifecycle.handleQuery descriptor filter true).sql =
      Lifecycle.Naming.shownText { descriptor with table := "t" } true ++
        (descriptor.table ++ " WHERE " ++ filter.sql) := by
    rw [Lifecycle.handleQuery_sql]
    simp [Lifecycle.Naming.shownText, scalarColumns, String.append_assoc]
  rw [parse, text, tokenize, String.toList_append, shown] at parsed
  cases found : tokens (descriptor.table ++ " WHERE " ++ filter.sql).toList with
  | error fault =>
    rw [found] at parsed
    cases parsed
  | ok rest =>
    have whole : wholeStatement (.word "SELECT" ::
        (naming.shownTokens names ++ .word "FROM" :: rest)) = .ok read := by
      rw [found] at parsed
      simpa [Except.map, bind, Except.bind] using parsed
    obtain ⟨_, reads⟩ := wholeStatement_cases whole
    obtain ⟨query, rfl, selected⟩ := statement_select (by cbv) reads
    obtain ⟨_, _, _, readItems, -⟩ := selection_cases selected.choose_spec
    have isFrom : (Token.word "FROM").isKeyword "FROM" = true := by cbv
    obtain ⟨columns, isItems, areColumns⟩ :=
      naming.shown_spelled spelled (endsItem_keyword isFrom rest) ⟨_, readItems.choose_spec⟩
    obtain ⟨sameItems, -⟩ := readItems.unique (isItems.readItems isFrom rest)
    exact ⟨query, naming.payload, columns, rfl, sameItems, calls_of_names each areColumns⟩

end Descriptor

end RowPayload
