import Mathlib
import RowPayload.Mapping.Convention
import RowPayload.Mapping.Metadata
import RowPayload.Proofs.Sql.Lexemes

/-!
# Names put in brackets

A mapping puts a column name in brackets, unless it stands in brackets already, and the lexer
takes a name out of them at the first closing bracket. Nothing stands for a closing bracket
inside of a name. So the two agree on the name without its enclosing brackets as long as there is
none in it; with one in it the name ends early, and the rest of it is read as tokens of the
statement.
-/

namespace RowPayload

/-- A map filled with one value for each key has that value for every key listed. -/
theorem OrderedMap.get?_ofList_map {κ α : Type} [DecidableEq κ] (value : κ → α) {keys : List κ}
    {key : κ} (listed : key ∈ keys) :
    (ofList (keys.map fun key => (key, value key))).get? key = some (value key) := by
  have filled : ∀ start : OrderedMap κ α, ((keys.map fun key => (key, value key)).foldl
      (fun map entry => map.insert entry.1 entry.2) start).get? key =
        if key ∈ keys then some (value key) else start.get? key := by
    clear listed
    induction keys with
    | nil => exact fun start => rfl
    | cons first rest inductionHypothesis =>
      intro start
      rw [List.map_cons, List.foldl_cons, inductionHypothesis, get?_insert]
      by_cases here : key = first
      · subst here
        simp
      · simp [here]
  rw [ofList, filled, if_pos listed]

namespace Bracket

open Sql (Token tokenize tokens)

/-! ## Names without brackets -/

/-- Characters without a closing bracket stand in no brackets. -/
theorem stripCharacters_of_not_mem {name : List Char} (closed : ']' ∉ name) :
    stripCharacters name = name := by
  cases name with
  | nil => rfl
  | cons first rest =>
    have noEnd : ¬ (first = '[' ∧ rest.getLast? = some ']') := by
      rintro ⟨-, last⟩
      exact closed (List.mem_cons_of_mem _ (List.mem_of_getLast? last))
    rw [stripCharacters, if_neg noEnd]

/-- Taking brackets off only takes off. -/
theorem stripCharacters_sublist (name : List Char) : (stripCharacters name).Sublist name := by
  cases name with
  | nil => exact List.Sublist.refl []
  | cons first rest =>
    rw [stripCharacters]
    split
    · exact (List.dropLast_sublist rest).trans (List.sublist_cons_self first rest)
    · exact List.Sublist.refl _

/-- A name without a closing bracket stands in no brackets. -/
theorem strip_of_not_mem {name : String} (closed : ']' ∉ name.toList) : strip name = name := by
  rw [strip, stripCharacters_of_not_mem closed, String.ofList_toList]

/-- Characters in brackets are taken out of them. -/
theorem stripCharacters_enclosed (name : List Char) :
    stripCharacters ('[' :: (name ++ [']'])) = name := by
  rw [stripCharacters, if_pos ⟨rfl, by simp⟩, List.dropLast_concat]

/-- A name in brackets is taken out of them. -/
theorem strip_enclosed (name : String) : strip ("[" ++ name ++ "]") = name := by
  rw [strip, Sql.toList_bracketed, stripCharacters_enclosed, String.ofList_toList]

/-! ## Names in brackets -/

/-- Characters are put in brackets without the ones they stand in. -/
theorem encloseCharacters_eq (name : List Char) :
    encloseCharacters name = '[' :: (stripCharacters name ++ [']']) := by
  cases name with
  | nil => rfl
  | cons first rest =>
    have enclosed : ((first :: rest).head? = some '[' ∧ (first :: rest).getLast? = some ']') ↔
        (first = '[' ∧ rest.getLast? = some ']') := by
      rw [List.head?_cons, Option.some.injEq]
      refine and_congr_right ?_
      rintro rfl
      cases rest with
      | nil => exact iff_of_false (by decide) nofun
      | cons second others => rw [List.getLast?_cons_cons]
    rw [encloseCharacters, stripCharacters]
    simp only [enclosed]
    split
    · rename_i both
      obtain ⟨rfl, closes⟩ := both
      obtain ⟨inner, rfl⟩ := List.getLast?_eq_some_iff.1 closes
      rw [List.dropLast_concat]
    · rfl

/-- A name is put in brackets without the ones it stands in. -/
theorem enclose_eq (name : String) : enclose name = "[" ++ strip name ++ "]" := by
  apply String.toList_injective
  rw [enclose, String.toList_ofList, encloseCharacters_eq, Sql.toList_bracketed, strip,
    String.toList_ofList]

/-- A text in brackets is one name exactly if no bracket closes it before the last. -/
theorem tokenize_bracketed_iff {name content : String} :
    tokenize ("[" ++ name ++ "]") = .ok [.quoted content] ↔
      content = name ∧ ']' ∉ name.toList := by
  constructor
  · intro read
    obtain ⟨before, spelled, following, split, blank, spells, others⟩ :=
      (Sql.tokenize_iff.1 read).uncons
    obtain ⟨rfl, closed⟩ := spells.of_quoted
    have whole : '[' :: (name.toList ++ [']']) =
        before ++ ('[' :: (content.toList ++ [']']) ++ following) := by
      rw [← split, Sql.toList_bracketed]
    have atStart : before = [] := by
      cases before with
      | nil => rfl
      | cons first rest =>
        obtain ⟨rfl, -⟩ := List.cons.inj whole
        exact absurd (blank '[' (List.mem_cons_self ..)) (by decide)
    rw [atStart, List.nil_append, List.cons_append, List.cons_inj_right] at whole
    -- What follows the name is blank, so it cannot be what ends with the last bracket.
    have nothing : following = [] := by
      rcases List.eq_nil_or_concat following with empty | ⟨inner, last, rfl⟩
      · exact empty
      · rw [List.concat_eq_append, ← List.append_assoc] at whole
        obtain ⟨-, ends⟩ := List.append_inj' whole rfl
        have lastBlank := others.blank_of_nil last (by simp)
        rw [← (List.cons.inj ends).1] at lastBlank
        cases lastBlank
    rw [nothing, List.append_nil] at whole
    obtain ⟨same, -⟩ := List.append_inj' whole rfl
    exact ⟨String.toList_injective same.symm, same ▸ closed⟩
  · rintro ⟨rfl, closed⟩
    exact Sql.tokenize_bracketed closed

/-- A name in brackets without one that closes it before is one token, whatever follows. -/
theorem sealed_bracketed {name : String} (closed : ']' ∉ name.toList) :
    Sql.Sealed ("[" ++ name ++ "]") [.quoted name] := by
  intro suffix
  have whole : ("[" ++ name ++ "]").toList ++ suffix = '[' :: (name.toList ++ ']' :: suffix) := by
    rw [Sql.toList_bracketed, List.cons_append, List.append_assoc]
    rfl
  have read : Sql.lexeme '[' (name.toList ++ ']' :: suffix) = .ok (.quoted name, suffix) :=
    Sql.quotedToken_iff.2 ⟨name.toList, by rw [String.ofList_toList], rfl, closed⟩
  rw [whole, Sql.tokens_cons (by decide) read]
  rfl

/-- A text is what a name is put in brackets as: the name without the ones that it stands in, in
brackets. It is one identifier exactly if there is no closing bracket left in the name, and then it
is one at any place in a statement. -/
structure Quotes (name text : String) : Prop where
  written : text = "[" ++ strip name ++ "]"
  one : ∀ content, tokenize text = .ok [.quoted content] ↔
    content = strip name ∧ ']' ∉ (strip name).toList
  anywhere : ']' ∉ (strip name).toList → ∀ before after first, tokenize before = .ok first →
    tokenize (before ++ text ++ after) =
      (tokenize after).map fun second => first ++ .quoted (strip name) :: second

/-- A name that is put in brackets is quoted. -/
theorem quotes_enclose (name : String) : Quotes name (enclose name) := by
  rw [enclose_eq]
  constructor
  case written => rfl
  case one => exact fun content => tokenize_bracketed_iff
  case anywhere =>
    intro closed before after first read
    have bracketed := (sealed_bracketed closed).close (c := '[') (by decide) (by simp) read
    rw [tokenize, String.toList_append, bracketed, tokenize]
    cases tokens after.toList with
    | error fault => rfl
    | ok second => exact congrArg Except.ok (List.append_assoc first _ second)

end Bracket

/-! ## Columns of a mapping -/

/-- The column of a property is the one the identifier has, if the property is the identifier, and
otherwise the first that is listed for it, in brackets. -/
theorem Metadata.Entity.get?_propertyColumns (entity : Metadata.Entity) (property : String) :
    entity.propertyColumns.get? property =
      ((entity.identifier.filter fun id => id.property == property).map Metadata.Column.column).or
        ((entity.columns.find? fun column => column.property == property).map
          fun column => Bracket.enclose column.column) := by
  have listed : ∀ (columns : List Metadata.Column) (start : OrderedMap String String),
      (columns.foldl (fun map c => if map.contains c.property then map
        else map.insert c.property (Bracket.enclose c.column)) start).get? property =
      (start.get? property).or ((columns.find? fun column => column.property == property).map
        fun column => Bracket.enclose column.column) := by
    intro columns
    induction columns with
    | nil => simp
    | cons first rest inductionHypothesis =>
      intro start
      rw [List.foldl_cons, inductionHypothesis, List.find?_cons]
      cases known : start.get? first.property with
      | some held =>
        rw [OrderedMap.contains, known, Option.isSome_some, if_pos rfl]
        by_cases here : first.property = property
        · rw [← here, known]
          rfl
        · rw [beq_eq_false_iff_ne.2 here]
      | none =>
        rw [OrderedMap.contains, known, Option.isSome_none, if_neg (by decide),
          OrderedMap.get?_insert]
        by_cases here : first.property = property
        · rw [if_pos here.symm, beq_iff_eq.2 here, ← here, known]
          rfl
        · rw [if_neg (Ne.symm here), beq_eq_false_iff_ne.2 here]
  rw [propertyColumns, listed]
  cases entity.identifier with
  | none => rfl
  | some id =>
    by_cases here : id.property = property
    · simp [OrderedMap.get?_insert, Option.filter, here]
    · simp [OrderedMap.get?_insert, Option.filter, here, Ne.symm here]
      rfl

/-- **Quoting yields one identifier for a name without a closing bracket.** Both mappings put
the names they are given in brackets: the one by convention those of all fields, and the one from
a metadata document those of all columns that are the first listed for a property other than the
identifier. The text is one identifier exactly if the name has no closing bracket but the one
that it may be enclosed by; then it is that name, and at any place in a statement nothing more. -/
theorem mapped_columns_quoted :
    (∀ {ρ : Type} (convention : Convention) (schema : Schema ρ), ∀ field ∈ schema.fields,
      ∃ text, (convention.provider schema).columns.get? field.name = some text ∧
        Bracket.Quotes field.name text) ∧
    ∀ (entity : Metadata.Entity) (column : Metadata.Column),
      (∀ id, entity.identifier = some id → id.property ≠ column.property) →
      (entity.columns.find? fun other => other.property == column.property) = some column →
      ∃ text, entity.provider.columns.get? column.property = some text ∧
        Bracket.Quotes column.column text := by
  constructor
  · intro ρ convention schema field member
    have listed : field.name ∈ schema.fields.map fun field => field.name :=
      List.mem_map_of_mem member
    have found := OrderedMap.get?_ofList_map Bracket.enclose listed
    rw [List.map_map] at found
    exact ⟨_, found, Bracket.quotes_enclose field.name⟩
  · intro entity column noIdentifier first
    refine ⟨Bracket.enclose column.column, ?_, Bracket.quotes_enclose column.column⟩
    have other : (entity.identifier.filter fun id => id.property == column.property) = none := by
      cases known : entity.identifier with
      | none => rfl
      | some id => simpa using noIdentifier id known
    rw [Metadata.Entity.provider, Provider.consistent, Metadata.Entity.get?_propertyColumns, first,
      other]
    rfl

namespace Sample

/-- Records with fields of the given names, of which nothing is read. -/
def fields (names : List String) : Schema Unit where
  typeName := "Recordings"
  blank := ()
  fields := names.map fun name => ⟨name, .optional .nvarChar, fun _ => .null, fun _ => .ok⟩

/-- The convention for recordings. -/
def convention : Convention := ⟨Convention.standardSchema, some "Id", "Sound"⟩

/-- Recordings as a metadata document describes them, with one column in brackets. -/
def entity : Metadata.Entity where
  name := "Recording"
  table := "Recordings"
  identifier := some ⟨"id", "Id"⟩
  payload := "sound"
  columns := [⟨"title", "[Title]"⟩, ⟨"sound", "Sound"⟩]

end Sample

/-- A field by convention, and a column that a document has in brackets. -/
theorem mapped_columns_quoted_recordings :
    (∃ text, (Sample.convention.provider (Sample.fields ["Id", "Sound"])).columns.get? "Sound" =
        some text ∧ Sql.tokenize text = .ok [.quoted "Sound"]) ∧
    ∃ text, Sample.entity.provider.columns.get? "title" = some text ∧
      Sql.tokenize ("SELECT " ++ text ++ " FROM Recordings") =
        .ok [.word "SELECT", .quoted "Title", .word "FROM", .word "Recordings"] := by
  obtain ⟨byConvention, fromDocument⟩ := mapped_columns_quoted
  have listed : (⟨"Sound", .optional .nvarChar, fun _ => .null, fun _ => .ok⟩ : Field Unit) ∈
      (Sample.fields ["Id", "Sound"]).fields :=
    List.mem_cons_of_mem _ (List.mem_cons_self ..)
  obtain ⟨text, mapped, quotes⟩ := byConvention Sample.convention _ _ listed
  obtain ⟨other, mappedOther, quotesOther⟩ := fromDocument Sample.entity ⟨"title", "[Title]"⟩
    (by rintro id ⟨⟩; decide) rfl
  have sound : Bracket.strip "Sound" = "Sound" := rfl
  have title : Bracket.strip "[Title]" = "Title" := rfl
  have select : Sql.tokenize "SELECT " = .ok [.word "SELECT"] := by cbv
  have from_ : Sql.tokenize " FROM Recordings" = .ok [.word "FROM", .word "Recordings"] := by cbv
  refine ⟨⟨text, mapped, (quotes.one "Sound").2 ⟨sound.symm, by decide⟩⟩, other, mappedOther, ?_⟩
  have read := quotesOther.anywhere (by decide) "SELECT " " FROM Recordings" _ select
  rw [read, from_, title]
  rfl

/-- A field with closing brackets in its name adds tokens to a statement. -/
theorem enclosed_name_adds_tokens :
    (Sample.convention.provider (Sample.fields ["Id] = 1 OR [Id", "Sound"])).columns.get?
        "Id] = 1 OR [Id" = some "[Id] = 1 OR [Id]" ∧
      Sql.tokenize "[Id] = 1 OR [Id]" =
        .ok [.quoted "Id", .equals, .number 1, .word "OR", .quoted "Id"] :=
  ⟨by decide, by cbv⟩

end RowPayload
