import RowPayload.Lifecycle
import RowPayload.Proofs.Predicate.Meaning

/-!
# The texts of lifecycle statements

A lifecycle statement is written in pieces: keywords, the table's name, columns, a filter and
placeholders. The tokens of the whole are those of the pieces one after another, whatever the
pieces are, as long as each of them has tokens. Placeholders have tokens as long as their
ordinals are machine words, and conversely a text that has tokens binds no more values.
-/

namespace RowPayload.Lifecycle

open Sql

variable {ε : Type} {descriptor : Descriptor} {filter : Clause}

/-! ## Builders -/

/-- Appended text comes last. -/
theorem build_sql (builder : CommandBuilder) (text : String) :
    (builder.sql text).build.sql = builder.build.sql ++ text := by
  simp [CommandBuilder.build, CommandBuilder.sql, CommandBuilder.partText, String.join_append]

/-- A bound value stands in the text as the placeholder of the next ordinal. -/
theorem build_bind (builder : CommandBuilder) (column : Option String) (value : Value) :
    (builder.bind column value).build.sql =
      builder.build.sql ++ placeholder builder.parameters.length := by
  simp [CommandBuilder.build, CommandBuilder.bind, CommandBuilder.partText, String.join_append]

/-- The builder after binding a value of a row. -/
def bindOne (builder : CommandBuilder) (entry : String × Value) : CommandBuilder :=
  (builder.bind (some entry.1) entry.2).sql ", "

/-- The builder after binding the values of a row. -/
def bindAll (builder : CommandBuilder) (entries : List (String × Value)) : CommandBuilder :=
  entries.foldl (fun builder entry => (builder.bind (some entry.1) entry.2).sql ", ") builder

/-- Values are bound one after another. -/
theorem bindAll_cons (builder : CommandBuilder) (first : String × Value)
    (rest : List (String × Value)) :
    bindAll builder (first :: rest) = bindAll (bindOne builder first) rest := rfl

/-- Binding a value moves the next ordinal. -/
@[simp] theorem length_bindOne (builder : CommandBuilder) (entry : String × Value) :
    (bindOne builder entry).parameters.length = builder.parameters.length + 1 := by
  simp [bindOne, CommandBuilder.sql, CommandBuilder.bind]

/-- A bound value stands in the text as the next placeholder with a comma after it. -/
theorem build_bindOne (builder : CommandBuilder) (entry : String × Value) :
    (bindOne builder entry).build.sql =
      builder.build.sql ++ placeholder builder.parameters.length ++ ", " := by
  rw [bindOne, build_sql, build_bind]

/-- The values of a row are bound in order, after what is bound already. -/
theorem boundValues_bindAll (builder : CommandBuilder) (entries : List (String × Value)) :
    boundValues (bindAll builder entries).parameters =
      boundValues builder.parameters ++ entries.map Prod.snd := by
  induction entries generalizing builder with
  | nil => simp [bindAll]
  | cons first rest inductionHypothesis =>
    have taken : boundValues (bindOne builder first).parameters =
        boundValues builder.parameters ++ [first.2] := by
      simp [bindOne, CommandBuilder.sql, CommandBuilder.bind, boundValues, Parameter.make]
    rw [bindAll_cons, inductionHypothesis, taken]
    simp

/-- What is written already comes first, whatever is bound. -/
theorem exists_build_bindAll (builder : CommandBuilder) (entries : List (String × Value)) :
    ∃ more, (bindAll builder entries).build.sql = builder.build.sql ++ more := by
  induction entries generalizing builder with
  | nil => exact ⟨"", by simp [bindAll]⟩
  | cons first rest inductionHypothesis =>
    obtain ⟨more, written⟩ := inductionHypothesis (bindOne builder first)
    refine ⟨placeholder builder.parameters.length ++ ", " ++ more, ?_⟩
    rw [bindAll_cons, written, build_bindOne]
    simp only [String.append_assoc]

/-- A text that goes on with the placeholder of the next value is sealed up to the comma. -/
theorem bindOne_sealed {builder : CommandBuilder} {before : List Token}
    (sealedBuilder : Sealed builder.build.sql before)
    (small : builder.parameters.length < Placeholder.ordinalBound) (entry : String × Value) :
    Sealed (bindOne builder entry).build.sql
      (before ++ [Token.parameter builder.parameters.length, .comma]) := by
  have commaSealed : Sealed ", " [.comma] := sealed_of_blank "," rfl (by cbv)
  have bound := sealedBuilder.tokenize_append (tokens_placeholder small)
  have whole := commaSealed.close (by decide) rfl bound
  rwa [← build_bindOne builder entry, List.append_assoc] at whole

/-- The values of a row stand in the text as their placeholders. -/
theorem bindAll_sealed {builder : CommandBuilder} {before : List Token}
    (sealedBuilder : Sealed builder.build.sql before) {entries : List (String × Value)}
    (small : ∀ index < entries.length,
      builder.parameters.length + index < Placeholder.ordinalBound) :
    Sealed (bindAll builder entries).build.sql
      (before ++ (List.range' builder.parameters.length entries.length).flatMap
        fun ordinal => [.parameter ordinal, .comma]) := by
  -- Every value that is bound moves the next ordinal, so the builder is general.
  induction entries generalizing builder before with
  | nil => simpa [bindAll] using sealedBuilder
  | cons first rest inductionHypothesis =>
    have smallFirst : builder.parameters.length < Placeholder.ordinalBound := small 0 (by simp)
    have smallRest : ∀ index < rest.length,
        (bindOne builder first).parameters.length + index < Placeholder.ordinalBound := by
      intro index inside
      have shifted := small (index + 1) (by simpa using inside)
      rw [length_bindOne]
      omega
    have sealedRest := inductionHypothesis (bindOne_sealed sealedBuilder smallFirst first) smallRest
    rw [length_bindOne] at sealedRest
    simpa [bindAll_cons, List.range'_succ] using sealedRest

/-- A placeholder that has a token has a machine word for an ordinal. -/
theorem small_of_tokens {ordinal : Nat} {after : List Char} {found : List Token}
    (noDigit : ∀ c ∈ after.head?, c.isDigit = false)
    (read : tokens ((placeholder ordinal).toList ++ after) = .ok found) :
    ordinal < Placeholder.ordinalBound := by
  apply Decidable.byContradiction
  intro large
  have noOrdinal : Placeholder.ordinal? (toString ordinal).toList = none := by
    rw [Placeholder.ordinal?, natural?_toString, Option.filter, if_neg (by simpa using large)]
  have failed : lexeme '@' ('p' :: ((toString ordinal).toList ++ after)) =
      .error (.badPlaceholder (toString ordinal)) := by
    show placeholderToken ('p' :: ((toString ordinal).toList ++ after)) = _
    rw [placeholderToken_toString ordinal noDigit, noOrdinal]
  rw [toList_placeholder, List.cons_append, List.cons_append, tokens, if_neg (by decide)] at read
  split at read
  · cases read
  · rename_i answered
    rw [failed] at answered
    cases answered

/-- A text that has tokens binds values under machine words only. -/
theorem small_of_tokens_bindAll {builder : CommandBuilder} {before found : List Token}
    (sealedBuilder : Sealed builder.build.sql before) {entries : List (String × Value)}
    {suffix : List Char}
    (read : tokens ((bindAll builder entries).build.sql.toList ++ suffix) = .ok found) :
    ∀ index < entries.length, builder.parameters.length + index < Placeholder.ordinalBound := by
  induction entries generalizing builder before with
  | nil => exact nofun
  | cons first rest inductionHypothesis =>
    rw [bindAll_cons] at read
    have small : builder.parameters.length < Placeholder.ordinalBound := by
      obtain ⟨more, written⟩ := exists_build_bindAll (bindOne builder first) rest
      rw [written, build_bindOne, String.toList_append, String.toList_append,
        String.toList_append, List.append_assoc, List.append_assoc, List.append_assoc,
        sealedBuilder] at read
      generalize after : ", ".toList ++ (more.toList ++ suffix) = following at read
      cases tokensAfter : tokens ((placeholder builder.parameters.length).toList ++ following) with
      | error fault =>
        rw [tokensAfter] at read
        cases read
      | ok others =>
        refine small_of_tokens ?_ tokensAfter
        rw [← after]
        rintro c ⟨⟩
        decide
    intro index inside
    cases index with
    | zero => exact small
    | succ index =>
      have later := inductionHypothesis (bindOne_sealed sealedBuilder small first) read index
        (by simpa using inside)
      rw [length_bindOne] at later
      omega

/-! ## Lists -/

/-- The tokens of elements of one token each, with commas between them and before the last. -/
def listTokens {α : Type} (token : α → Token) (elements : List α) (last : Token) : List Token :=
  elements.flatMap (fun element => [token element, .comma]) ++ [last]

/-- Elements with commas between them are a list of what they spell. -/
theorem listTokens_spelled {α β : Type} {spells : List Token → β → Prop} {token : α → Token}
    {tree : α → β} {last : Token} {lastTree : β}
    (each : ∀ element, spells [token element] (tree element))
    (lastSpelled : spells [last] lastTree) (elements : List α) :
    IsList spells (listTokens token elements last) (elements.map tree ++ [lastTree]) := by
  induction elements with
  | nil => exact .last lastSpelled
  | cons first rest inductionHypothesis => exact .more (each first) inductionHypothesis

/-- The places of values bound from an ordinal on, with an empty payload after them. -/
def placeTokens (first count : Nat) : List Token :=
  listTokens .parameter (List.range' first count) (.hex [])

/-- The places of the values of a row are a list of placeholders and an empty payload. -/
theorem placeTokens_spelled (first count : Nat) : IsList IsOperand (placeTokens first count)
    ((List.range' first count).map .parameter ++ [Operand.binary []]) :=
  listTokens_spelled .parameter (.binary []) _

/-! ## Statements in pieces -/

/-- The builder after inserting a row with bound values. -/
def inserted (descriptor : Descriptor) (builder : CommandBuilder)
    (entries : List (String × Value)) : CommandBuilder :=
  (bindAll (builder.sql ("INSERT INTO " ++ descriptor.table ++ " (" ++
    ", ".intercalate (entries.map Prod.fst ++ [descriptor.payloadColumn]) ++ ") VALUES ("))
      entries).sql "0x)"

/-- Inserting a row binds its values and appends the insertion. -/
theorem perform_insert (builder : CommandBuilder) (row : NewRow ε) (surroundings : ε) :
    (insert descriptor builder row).perform surroundings =
      (((boundColumns descriptor row.values.entries).perform surroundings).1.map
          (inserted descriptor builder),
        ((boundColumns descriptor row.values.entries).perform surroundings).2) := by
  rw [insert, Work.perform_bind]
  cases bound : (boundColumns descriptor row.values.entries).perform surroundings with
  | mk answer after => cases answer <;> rfl

/-- The values of the row follow what is bound already. -/
theorem boundValues_inserted (builder : CommandBuilder) (entries : List (String × Value)) :
    boundValues (inserted descriptor builder entries).parameters =
      boundValues builder.parameters ++ entries.map Prod.snd :=
  boundValues_bindAll _ entries

/-- How the texts that lifecycle statements are made of are split into tokens. -/
structure Texts (descriptor : Descriptor) (filter : Clause) where
  tableTokens : List Token
  table_read : tokenize descriptor.table = .ok tableTokens
  payloadTokens : List Token
  payload_read : tokenize descriptor.payloadColumn = .ok payloadTokens
  filterTokens : List Token
  filter_read : tokenize filter.sql = .ok filterTokens

namespace Texts

/-- The tokens of a filter after its keyword. -/
def clauseTokens (texts : Texts descriptor filter) : List Token :=
  .word "WHERE" :: texts.filterTokens

/-- The tokens of the selection of the rows that match. -/
def probeTokens (texts : Texts descriptor filter) : List Token :=
  .number 1 :: .word "FROM" :: (texts.tableTokens ++ texts.clauseTokens)

/-- The tokens of the statement that empties payloads. -/
def emptyingTokens (texts : Texts descriptor filter) : List Token :=
  .word "UPDATE" :: (texts.tableTokens ++ .word "SET" ::
    (texts.payloadTokens ++ .equals :: .hex [] :: texts.clauseTokens))

/-- The tokens that an insertion starts with, up to its values. -/
def openingTokens (texts : Texts descriptor filter) (columns : List Token) : List Token :=
  .word "INSERT" :: .word "INTO" :: (texts.tableTokens ++ .leftParen ::
    (columns ++ [.rightParen, .word "VALUES", .leftParen]))

/-- The tokens of the statement that inserts a row. -/
def insertionTokens (texts : Texts descriptor filter) (columns : List Token)
    (first count : Nat) : List Token :=
  texts.openingTokens columns ++ (placeTokens first count ++ [.rightParen])

variable (texts : Texts descriptor filter)

/-- A question is read as its keywords and the selection it asks about. -/
theorem probe_sealed {keyword : String} {asked : List Token} (read : tokenize keyword = .ok asked) :
    Sealed (probe descriptor keyword filter)
      (asked ++ Token.leftParen :: .word "SELECT" :: (texts.probeTokens ++ [.rightParen])) := by
  have selectSealed : Sealed " (SELECT 1 FROM "
      [.leftParen, .word "SELECT", .number 1, .word "FROM"] :=
    sealed_of_blank " (SELECT 1 FROM" rfl (by cbv)
  have whereSealed : Sealed " WHERE " [.word "WHERE"] := sealed_of_blank " WHERE" rfl (by cbv)
  have closeSealed : Sealed ") " [.rightParen] := sealed_of_blank ")" rfl (by cbv)
  have table := (selectSealed.close (by decide) rfl read).tokenize_append texts.table_read
  have condition := (whereSealed.close (by decide) rfl table).tokenize_append texts.filter_read
  have whole := closeSealed.close (by decide) rfl condition
  simpa [probe, probeTokens, clauseTokens] using whole

/-- The question that a statement starts with. -/
theorem seeded_sealed {keyword : String} {asked : List Token}
    (read : tokenize keyword = .ok asked) :
    Sealed ((CommandBuilder.seeded filter).sql (probe descriptor keyword filter)).build.sql
      (asked ++ Token.leftParen :: .word "SELECT" :: (texts.probeTokens ++ [.rightParen])) := by
  rw [build_sql]
  exact sealed_empty.append (texts.probe_sealed read)

/-- The text of the statement that empties payloads is read as it. -/
theorem emptying_read : tokenize (emptyPayload descriptor filter) = .ok texts.emptyingTokens := by
  have updateSealed : Sealed "UPDATE " [.word "UPDATE"] := sealed_of_blank "UPDATE" rfl (by cbv)
  have setSealed : Sealed " SET " [.word "SET"] := sealed_of_blank " SET" rfl (by cbv)
  have whereSealed : Sealed " = 0x WHERE " [.equals, .hex [], .word "WHERE"] :=
    sealed_of_blank " = 0x WHERE" rfl (by cbv)
  have table := updateSealed.tokenize_append texts.table_read
  have column := (setSealed.close (by decide) rfl table).tokenize_append texts.payload_read
  have condition := (whereSealed.close (by decide) rfl column).tokenize_append texts.filter_read
  simpa [emptyPayload, emptyingTokens, clauseTokens] using condition

section

variable {builder : CommandBuilder} {before columns : List Token}
  {entries : List (String × Value)}

/-- The text of an insertion up to its values is sealed. -/
theorem opening_sealed (sealedBuilder : Sealed builder.build.sql before)
    (columnsRead : tokenize (", ".intercalate
      (entries.map Prod.fst ++ [descriptor.payloadColumn])) = .ok columns) :
    Sealed (builder.sql ("INSERT INTO " ++ descriptor.table ++ " (" ++ ", ".intercalate
      (entries.map Prod.fst ++ [descriptor.payloadColumn]) ++ ") VALUES (")).build.sql
        (before ++ texts.openingTokens columns) := by
  have intoSealed : Sealed "INSERT INTO " [.word "INSERT", .word "INTO"] :=
    sealed_of_blank "INSERT INTO" rfl (by cbv)
  have openSealed : Sealed " (" [.leftParen] :=
    sealed_of_mark (c := '(') " " [] (by rfl) (by decide) rfl (by decide) (by cbv)
  have valuesSealed : Sealed ") VALUES (" [.rightParen, .word "VALUES", .leftParen] :=
    sealed_of_mark (c := '(') ") VALUES " [.rightParen, .word "VALUES"] (by rfl) (by decide) rfl
      (by decide) (by cbv)
  have table := intoSealed.tokenize_append texts.table_read
  have named := (openSealed.close (by decide) rfl table).tokenize_append columnsRead
  have opening := valuesSealed.close (by decide) rfl named
  have opened := sealedBuilder.append opening
  rw [← build_sql] at opened
  simpa [openingTokens] using opened

/-- An insertion is read as its columns and the places of its values. -/
theorem inserted_sealed (sealedBuilder : Sealed builder.build.sql before)
    (columnsRead : tokenize (", ".intercalate
      (entries.map Prod.fst ++ [descriptor.payloadColumn])) = .ok columns)
    (small : ∀ index < entries.length,
      builder.parameters.length + index < Placeholder.ordinalBound) :
    Sealed (inserted descriptor builder entries).build.sql (before ++
      texts.insertionTokens columns builder.parameters.length entries.length) := by
  have endSealed : Sealed "0x)" [.hex [], .rightParen] :=
    sealed_of_mark (c := ')') "0x" [.hex []] (by rfl) (by decide) rfl (by decide) (by cbv)
  have filled := bindAll_sealed (texts.opening_sealed sealedBuilder columnsRead) small
  have whole := filled.append endSealed
  rw [← build_sql] at whole
  simpa [inserted, insertionTokens, placeTokens, listTokens, CommandBuilder.sql] using whole

/-- An insertion in a text that has tokens binds values under machine words only. -/
theorem small_of_tokens_inserted (texts : Texts descriptor filter)
    (sealedBuilder : Sealed builder.build.sql before)
    (columnsRead : tokenize (", ".intercalate
      (entries.map Prod.fst ++ [descriptor.payloadColumn])) = .ok columns)
    {suffix : List Char} {found : List Token}
    (read : tokens ((inserted descriptor builder entries).build.sql.toList ++ suffix) =
      .ok found) :
    ∀ index < entries.length, builder.parameters.length + index < Placeholder.ordinalBound := by
  rw [inserted, build_sql, String.toList_append, List.append_assoc] at read
  exact small_of_tokens_bindAll (texts.opening_sealed sealedBuilder columnsRead) read

end

end Texts

/-! ## The command of a mode -/

/-- The columns of the values that are bound for a row are mapped. -/
theorem mapped_of_boundColumns {sources : List (String × ValueSource ε)}
    {entries : List (String × Value)} {surroundings after : ε}
    (bound : (boundColumns descriptor sources).perform surroundings = (.ok entries, after)) :
    ∀ entry ∈ entries, ∃ property, descriptor.columns.get? property = some entry.1 := by
  induction sources generalizing entries surroundings with
  | nil =>
    cases bound
    exact nofun
  | cons source rest inductionHypothesis =>
    obtain ⟨property, value⟩ := source
    rw [boundColumns] at bound
    split at bound
    · exact inductionHypothesis bound
    · obtain ⟨column, _, mapped, bound⟩ := Work.perform_bind_ok bound
      obtain ⟨produced, _, -, bound⟩ := Work.perform_bind_ok bound
      obtain ⟨others, _, boundRest, bound⟩ := Work.perform_bind_ok bound
      cases bound
      intro entry member
      rcases List.mem_cons.1 member with rfl | later
      · obtain ⟨found, -⟩ := Prod.mk.inj mapped
        exact ⟨property, Descriptor.get?_of_column found⟩
      · exact inductionHypothesis boundRest entry later

/-- The command of a mode, if it has one, once the values of a row are bound. -/
def composed (descriptor : Descriptor) (filter : Clause) (entries : List (String × Value)) :
    OpenMode → Option Command
  | .openExisting | .append => none
  | .truncate => some (truncate descriptor filter)
  | .createNew => some (inserted descriptor .empty entries).build
  | .create => some (((inserted descriptor ((CommandBuilder.seeded filter).sql
      (probe descriptor "IF NOT EXISTS" filter)) entries).sql " ELSE ").sql
        (emptyPayload descriptor filter)).build
  | .openOrCreate => some (inserted descriptor ((CommandBuilder.seeded filter).sql
      (probe descriptor "IF NOT EXISTS" filter)) entries).build

/-- An insertion that was written has the values of the row bound. -/
theorem insert_binds {builder result : CommandBuilder} {row : NewRow ε} {surroundings after : ε}
    (done : (insert descriptor builder row).perform surroundings = (.ok result, after)) :
    ∃ entries, (boundColumns descriptor row.values.entries).perform surroundings =
        (.ok entries, after) ∧ result = inserted descriptor builder entries := by
  rw [perform_insert] at done
  cases bound : (boundColumns descriptor row.values.entries).perform surroundings with
  | mk result rest =>
    rw [bound] at done
    cases result with
    | error fault => cases done
    | ok entries =>
      cases done
      exact ⟨entries, rfl, rfl⟩

/-- The command of a mode that may insert a row is composed from the values that are bound for the
row it was offered. -/
theorem command_creates {mode : OpenMode} (creates : mode.createsRow = true)
    {offered : Option (NewRow ε)} {surroundings after : ε} {answer : Option Command}
    (performed : (command descriptor mode filter offered).perform surroundings =
      (.ok answer, after)) :
    ∃ row entries, offered = some row ∧
      (boundColumns descriptor row.values.entries).perform surroundings = (.ok entries, after) ∧
      answer = composed descriptor filter entries mode := by
  have required {row : NewRow ε} (found : requireRow mode offered = .ok row) :
      offered = some row := by
    unfold requireRow at found
    split at found <;> cases found
    rfl
  cases mode with
  | openExisting | append | truncate => cases creates
  | createNew | create | openOrCreate =>
    obtain ⟨row, _, given, done⟩ := Work.perform_bind_ok performed
    obtain ⟨found, rfl⟩ := Prod.mk.inj given
    obtain ⟨written, _, wrote, done⟩ := Work.perform_bind_ok done
    obtain ⟨builder, _, inserts, wrote⟩ := Work.perform_bind_ok wrote
    cases done
    cases wrote
    obtain ⟨entries, bound, rfl⟩ := insert_binds inserts
    exact ⟨row, entries, required found, bound, rfl⟩

/-- The command of a mode is composed from the values of mapped columns. -/
theorem command_ok {mode : OpenMode} {offered : Option (NewRow ε)} {surroundings after : ε}
    {answer : Option Command}
    (performed : (command descriptor mode filter offered).perform surroundings =
      (.ok answer, after)) :
    ∃ entries : List (String × Value),
      (∀ entry ∈ entries, ∃ property, descriptor.columns.get? property = some entry.1) ∧
      answer = composed descriptor filter entries mode := by
  cases mode with
  | openExisting | append | truncate =>
    cases performed
    exact ⟨[], nofun, rfl⟩
  | createNew | create | openOrCreate =>
    obtain ⟨row, entries, -, bound, composes⟩ := command_creates rfl performed
    exact ⟨entries, mapped_of_boundColumns bound, composes⟩

/-- The question of the modes that insert a row if none matches. -/
theorem missing_read :
    tokenize "IF NOT EXISTS" = .ok [.word "IF", .word "NOT", .word "EXISTS"] := by
  cbv

/-- The values of the filter come before those of the row. -/
theorem seeded_goesOn (entries : List (String × Value)) :
    boundValues filter.parameters <+: boundValues (inserted descriptor
      ((CommandBuilder.seeded filter).sql (probe descriptor "IF NOT EXISTS" filter))
        entries).parameters := by
  rw [boundValues_inserted]
  exact List.prefix_append _ _

/-! ## The query for the handle -/

/-- The query for the handle in pieces. -/
theorem handleQuery_sql (descriptor : Descriptor) (filter : Clause) (wantColumns : Bool) :
    (handleQuery descriptor filter wantColumns).sql =
      "SELECT " ++ descriptor.payloadColumn ++
        ".PathName(), GET_FILESTREAM_TRANSACTION_CONTEXT()" ++
        String.join ((if wantColumns then descriptor.scalarColumns.map Prod.snd else []).map
          (", " ++ ·)) ++ (" FROM " ++ descriptor.table ++ " WHERE ") ++ filter.sql := by
  simp [handleQuery, CommandBuilder.build, CommandBuilder.splice, CommandBuilder.sql,
    CommandBuilder.empty, CommandBuilder.partText, Placeholder.shift, String.append_assoc]

/-- The query for the handle binds the values of the filter. -/
theorem boundValues_handleQuery (descriptor : Descriptor) (filter : Clause)
    (wantColumns : Bool) : boundValues (handleQuery descriptor filter wantColumns).parameters =
      boundValues filter.parameters := by
  simp [handleQuery, CommandBuilder.build, CommandBuilder.splice, CommandBuilder.sql,
    CommandBuilder.empty, boundValues, Function.comp_def, Parameter.shift]

/-- The columns that the query for the handle shows are mapped. -/
theorem mapped_of_shown (descriptor : Descriptor) (wantColumns : Bool) :
    ∀ column ∈ if wantColumns then descriptor.scalarColumns.map Prod.snd else [],
      ∃ property, descriptor.columns.get? property = some column := by
  intro column shown
  split at shown
  · obtain ⟨⟨property, _⟩, kept, rfl⟩ := List.mem_map.1 shown
    exact ⟨property, OrderedMap.get?_of_mem (List.mem_filter.1 kept).1⟩
  · cases shown

end RowPayload.Lifecycle
