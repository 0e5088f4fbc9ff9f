import RowPayload.Proofs.Lifecycle.Building
import RowPayload.Proofs.Sql.Soundness

/-!
# Names in lifecycle statements

A descriptor whose table and columns are written as names, plain or in brackets, has lifecycle
statements that are what they are meant to be, as soon as they are accepted: the statement of
a mode inserts a row with an empty payload into the table, at once or if no row meets the
filter, and the query for the handle selects from the same table by the same filter.
-/

namespace RowPayload

open Sql

variable {ε : Type} {descriptor : Descriptor} {filter : Clause}

/-! ## Names of columns -/

/-- The name of the column that a text is read as, if it is read as one. -/
def Sql.columnName? (text : String) : Option String :=
  match tokenize text with
  | .error _ => none
  | .ok tokens =>
    match columnName tokens with
    | .ok (name, ⟨[], _⟩) => some name
    | _ => none

/-- A text that is a name is read as the column that its last part names. -/
theorem Sql.columnName?_of_name {text : String} {tokens : List Token} {parts : List String}
    (read : tokenize text = .ok tokens) (isName : IsName tokens parts) :
    columnName? text = some (parts.getLastD "") := by
  have noDot : ([] : List Token).head? ≠ some .dot := nofun
  have reads := (IsColumn.ofName isName).read noDot
  rw [List.append_nil] at reads
  obtain ⟨_, readColumn⟩ := reads
  simp only [columnName?, read, readColumn]

/-! ## Conditions of clauses -/

/-- The condition that a clause is. -/
def Clause.condition? (clause : Clause) : Option Condition :=
  match parse ("SELECT 1 FROM t WHERE " ++ clause.sql) with
  | .ok (.select query) => query.filter
  | _ => none

/-- The text of a clause is a condition with semicolons after it. -/
structure Clause.Spells (clause : Clause) (condition : Condition) (semicolons : Nat) where
  tokens : List Token
  read : tokenize clause.sql = .ok (tokens ++ List.replicate semicolons .semicolon)
  spelled : IsCondition .alternative tokens condition

namespace Clause.Spells

variable {condition : Condition} {semicolons : Nat}

/-- A condition after its keyword is a filter. -/
theorem filter_spelled (spells : filter.Spells condition semicolons) :
    IsFilter (.word "WHERE" :: spells.tokens) (some condition) :=
  .present (by cbv) spells.spelled

/-- A condition without semicolons after it is a filter with all of its tokens. -/
theorem alone_spelled (spells : filter.Spells condition 0) :
    IsFilter (.word "WHERE" :: (spells.tokens ++ List.replicate 0 .semicolon))
      (some condition) := by
  rw [List.replicate_zero, List.append_nil]
  exact spells.filter_spelled

/-- What a clause spells is its condition. -/
theorem condition?_eq (spells : filter.Spells condition semicolons) :
    filter.condition? = some condition := by
  have opening : Sealed "SELECT 1 FROM t WHERE "
      [.word "SELECT", .number 1, .word "FROM", .word "t", .word "WHERE"] :=
    sealed_of_blank "SELECT 1 FROM t WHERE" rfl (by cbv)
  have isSelection : IsSelection
      (.number 1 :: .word "FROM" :: .word "t" :: .word "WHERE" :: spells.tokens)
      ⟨[.one], "t", some condition⟩ :=
    .mk (.last .one) (by cbv) (.last (.word "t")) spells.filter_spelled
  have isStatement : IsStatement
      (.word "SELECT" :: .number 1 :: .word "FROM" :: .word "t" :: .word "WHERE" :: spells.tokens)
      (.select ⟨[.one], "t", some condition⟩) :=
    .select (by cbv) isSelection
  have parsed : parse ("SELECT 1 FROM t WHERE " ++ filter.sql) =
      .ok (.select ⟨[.one], "t", some condition⟩) := by
    rw [parse, opening.tokenize_append spells.read]
    exact isStatement.readWhole semicolons
  rw [Clause.condition?, parsed]

end Clause.Spells

/-- A clause that is a condition spells it. -/
theorem Clause.spells_of_condition? {clause : Clause} {condition : Condition}
    (known : clause.condition? = some condition) :
    ∃ semicolons, Nonempty (clause.Spells condition semicolons) := by
  have opening : Sealed "SELECT 1 FROM t WHERE "
      [.word "SELECT", .number 1, .word "FROM", .word "t", .word "WHERE"] :=
    sealed_of_blank "SELECT 1 FROM t WHERE" rfl (by cbv)
  have tokensAll := opening clause.sql.toList
  rw [← String.toList_append] at tokensAll
  unfold Clause.condition? parse tokenize at known
  rw [tokensAll] at known
  cases read : tokens clause.sql.toList with
  | error fault =>
    rw [read] at known
    cases known
  | ok found =>
    rw [read] at known
    split at known
    · rename_i query whole
      obtain ⟨semicolons, reads⟩ := wholeStatement_cases whole
      obtain ⟨own, same, selected⟩ := statement_select (by cbv) reads
      cases same
      obtain ⟨written, own, rfl, split, spelled⟩ :=
        selection_of_items (.last .one) (.last (.word "t")) selected
      cases known
      exact ⟨semicolons, ⟨written, split ▸ read, spelled⟩⟩
    · cases known

namespace Lifecycle

/-! ## Descriptors that are written as names -/

/-- How the table and the columns of a descriptor are written as names. -/
structure Naming (descriptor : Descriptor) where
  tableTokens : List Token
  tableParts : List String
  table_read : tokenize descriptor.table = .ok tableTokens
  table_spelled : IsName tableTokens tableParts
  payloadTokens : List Token
  payloadParts : List String
  payload_read : tokenize descriptor.payloadColumn = .ok payloadTokens
  payload_spelled : IsName payloadTokens payloadParts
  /-- Every mapped column is a name. -/
  columns_spelled : ∀ property column, descriptor.columns.get? property = some column →
    ∃ tokens parts, tokenize column = .ok tokens ∧ IsName tokens parts

namespace Naming

/-- The name of the table, as the engine looks it up. -/
def table (naming : Naming descriptor) : String := ".".intercalate naming.tableParts

/-- The name of the payload column. -/
def payload (naming : Naming descriptor) : String := naming.payloadParts.getLastD ""

/-- The selection of the rows that meet a condition. -/
def probe (naming : Naming descriptor) (condition : Condition) : Select :=
  ⟨[.one], naming.table, some condition⟩

/-- The statement that empties the payloads of the rows that meet a condition. -/
def emptying (naming : Naming descriptor) (condition : Condition) : Statement :=
  .update naming.table [(naming.payload, .binary [])] (some condition)

/-- The statement that inserts a row with values of parameters in some columns, from an ordinal on,
and an empty payload. -/
def insertion (naming : Naming descriptor) (names : List String) (ordinal : Nat) : Statement :=
  .insert naming.table (names ++ [naming.payload])
    ((List.range' ordinal names.length).map .parameter ++ [Operand.binary []])

/-- The statement of a mode that may insert a row with values in some columns. -/
def creating (naming : Naming descriptor) (filter : Clause) (condition : Condition)
    (names : List String) : OpenMode → Option Statement
  | .createNew => some (naming.insertion names 0)
  | .create => some (.branch true (naming.probe condition)
      (naming.insertion names filter.parameters.length) (naming.emptying condition))
  | .openOrCreate => some (.conditional true (naming.probe condition)
      (naming.insertion names filter.parameters.length))
  | .openExisting | .append | .truncate => none

/-- Statements that insert a row of the table whose payload is set to nothing last. -/
inductive InsertsEmpty (naming : Naming descriptor) : Statement → Prop where
  | mk {names : List String} {operands : List Operand} (sized : names.length = operands.length) :
      InsertsEmpty naming (.insert naming.table (names ++ [naming.payload])
        (operands ++ [Operand.binary []]))

/-- The statement of a mode that may insert a row, with the parameters it binds: it inserts at
once, or if no row meets the condition of a clause, whose values it binds first. -/
inductive Inserts (naming : Naming descriptor) (filter : Clause) (condition : Condition) :
    OpenMode → Statement → List Parameter → Prop where
  | createNew {insertion : Statement} {parameters : List Parameter}
      (inserts : naming.InsertsEmpty insertion) :
      Inserts naming filter condition .createNew insertion parameters
  | create {insertion : Statement} {parameters : List Parameter}
      (inserts : naming.InsertsEmpty insertion)
      (goesOn : boundValues filter.parameters <+: boundValues parameters) :
      Inserts naming filter condition .create
        (.branch true (naming.probe condition) insertion (naming.emptying condition)) parameters
  | openOrCreate {insertion : Statement} {parameters : List Parameter}
      (inserts : naming.InsertsEmpty insertion)
      (goesOn : boundValues filter.parameters <+: boundValues parameters) :
      Inserts naming filter condition .openOrCreate
        (.conditional true (naming.probe condition) insertion) parameters

variable (naming : Naming descriptor)

/-- The texts that statements with a filter are made of. -/
def texts {filterTokens : List Token} (filterRead : tokenize filter.sql = .ok filterTokens) :
    Texts descriptor filter :=
  ⟨naming.tableTokens, naming.table_read, naming.payloadTokens, naming.payload_read, filterTokens,
    filterRead⟩

/-- The payload column is one. -/
theorem payload_column : IsColumn naming.payloadTokens naming.payload :=
  .ofName naming.payload_spelled

/-! ## Insertions -/

/-- The columns of an insertion are read as their names. -/
theorem columns_read {entries : List (String × Value)}
    (mapped : ∀ entry ∈ entries, ∃ property, descriptor.columns.get? property = some entry.1) :
    ∃ columns names, tokenize (", ".intercalate (entries.map Prod.fst ++
        [descriptor.payloadColumn])) = .ok columns ∧
      IsList IsColumn columns (names ++ [naming.payload]) ∧
      entries.map (fun entry => columnName? entry.1) = names.map some := by
  induction entries with
  | nil =>
    refine ⟨naming.payloadTokens, [], ?_, .last naming.payload_column, rfl⟩
    rw [List.map_nil, List.nil_append, String.intercalate_singleton]
    exact naming.payload_read
  | cons first rest inductionHypothesis =>
    obtain ⟨columns, names, read, spelled, named⟩ :=
      inductionHypothesis fun entry member => mapped entry (by simp [member])
    obtain ⟨property, known⟩ := mapped first (by simp)
    obtain ⟨tokens, parts, columnRead, isName⟩ := naming.columns_spelled property first.1 known
    have commaSealed : Sealed ", " [.comma] := sealed_of_blank "," rfl (by cbv)
    have whole := (commaSealed.close (by decide) rfl columnRead).tokenize_append read
    refine ⟨tokens ++ Token.comma :: columns, parts.getLastD "" :: names, ?_,
      .more (.ofName isName) spelled, ?_⟩
    · rw [List.map_cons, List.cons_append, String.intercalate_cons_of_ne_nil (by simp), whole,
        List.append_assoc, List.singleton_append]
    · rw [List.map_cons, List.map_cons, named, columnName?_of_name columnRead isName]

/-! ## Statements that are accepted -/

/-- The statement that inserts a row inserts one with an empty payload. -/
theorem insertsEmpty_insertion (names : List String) (ordinal : Nat) :
    naming.InsertsEmpty (naming.insertion names ordinal) :=
  .mk (by rw [List.length_map, List.length_range'])

/-- The text of an insertion that has tokens is the one of a row with an empty payload, whose values
stand in the columns of their entries. -/
theorem insertion_of_tokens {filterTokens : List Token}
    (filterRead : tokenize filter.sql = .ok filterTokens) {builder : CommandBuilder}
    {before : List Token} (sealedBuilder : Sealed builder.build.sql before)
    {entries : List (String × Value)}
    (mapped : ∀ entry ∈ entries, ∃ property, descriptor.columns.get? property = some entry.1)
    {suffix : List Char} {found : List Token}
    (read : tokens ((inserted descriptor builder entries).build.sql.toList ++ suffix) =
      .ok found) :
    ∃ written names, entries.map (fun entry => columnName? entry.1) = names.map some ∧
      Sealed (inserted descriptor builder entries).build.sql (before ++ written) ∧
      IsStatement written (naming.insertion names builder.parameters.length) := by
  obtain ⟨columns, names, columnsRead, isColumns, named⟩ := naming.columns_read mapped
  have sized : names.length = entries.length := by
    simpa using (congrArg List.length named).symm
  have small := (naming.texts filterRead).small_of_tokens_inserted sealedBuilder columnsRead read
  have sealedText := (naming.texts filterRead).inserted_sealed sealedBuilder columnsRead small
  generalize builder.parameters.length = ordinal at sealedText ⊢
  have isStatement : IsStatement
      ((naming.texts filterRead).insertionTokens columns ordinal entries.length)
      (naming.insertion names ordinal) := by
    have spelled : IsStatement (.word "INSERT" :: .word "INTO" :: (naming.tableTokens ++
        .leftParen :: (columns ++ Token.rightParen :: .word "VALUES" :: .leftParen ::
          (placeTokens ordinal entries.length ++ [Token.rightParen])))) _ :=
      .insert (by cbv) (by cbv) naming.table_spelled isColumns (by cbv) (placeTokens_spelled _ _)
    simpa [Texts.insertionTokens, Texts.openingTokens, texts, table, insertion, sized] using spelled
  exact ⟨_, names, named, sealedText, isStatement⟩

section

variable {condition : Condition}

/-- The selection of the rows that meet a condition is one. -/
theorem probe_spelled {filterTokens : List Token}
    (isFilter : IsFilter (.word "WHERE" :: filterTokens) (some condition)) :
    IsSelection (.number 1 :: .word "FROM" :: (naming.tableTokens ++
      .word "WHERE" :: filterTokens)) (naming.probe condition) :=
  .mk (.last .one) (by cbv) naming.table_spelled isFilter

/-- The statement that empties payloads is an update. -/
theorem emptying_spelled {filterTokens : List Token}
    (isFilter : IsFilter (.word "WHERE" :: filterTokens) (some condition)) :
    IsStatement (.word "UPDATE" :: (naming.tableTokens ++ Token.word "SET" ::
      (naming.payloadTokens ++ Token.equals :: .hex [] :: .word "WHERE" :: filterTokens)))
      (naming.emptying condition) := by
  have spelled : IsStatement (.word "UPDATE" :: (naming.tableTokens ++ Token.word "SET" ::
      ((naming.payloadTokens ++ Token.equals :: [.hex []]) ++ Token.word "WHERE" :: filterTokens)))
      (naming.emptying condition) :=
    .update (by cbv) naming.table_spelled (by cbv) (.last (.mk naming.payload_column (.binary [])))
      isFilter
  simpa using spelled

/-- A filter in a question that was read has no semicolons after it. -/
theorem semicolons_eq_zero {semicolons : Nat} (spells : filter.Spells condition semicolons)
    (negated : Bool) {others : List Token} {read : Statement}
    (whole : wholeStatement (.word "IF" :: (questionWords negated ++ Token.leftParen ::
      .word "SELECT" :: ((naming.texts spells.read).probeTokens ++ Token.rightParen :: others))) =
        .ok read) :
    semicolons = 0 := by
  obtain ⟨_, reads⟩ := wholeStatement_cases whole
  have accepted := existence_of_statement (by cbv) reads
  have isProbe := naming.probe_spelled spells.filter_spelled
  have shape : (naming.texts spells.read).probeTokens ++ Token.rightParen :: others =
      (.number 1 :: .word "FROM" :: (naming.tableTokens ++ Token.word "WHERE" :: spells.tokens)) ++
        (List.replicate semicolons .semicolon ++ Token.rightParen :: others) := by
    simp [Texts.probeTokens, Texts.clauseTokens, texts]
  rw [shape] at accepted
  cases semicolons with
  | zero => rfl
  | succ fewer =>
    have closed := isProbe.closed_of_existence (by cbv)
      (ends_semicolon (List.replicate fewer .semicolon ++ Token.rightParen :: others)) accepted
    cases closed

/-- The question of a command that was accepted asks for a row that meets the filter, and its
filter has no semicolons after it. -/
theorem missing_of_tokens {semicolons : Nat} (spells : filter.Spells condition semicolons)
    {entries : List (String × Value)} {suffix : String}
    (mapped : ∀ entry ∈ entries, ∃ property, descriptor.columns.get? property = some entry.1)
    {read : Statement} (parsed : parse ((inserted descriptor ((CommandBuilder.seeded filter).sql
      (Lifecycle.probe descriptor "IF NOT EXISTS" filter)) entries).build.sql ++ suffix) =
        .ok read) :
    ∃ question written names, entries.map (fun entry => columnName? entry.1) = names.map some ∧
      Sealed (inserted descriptor ((CommandBuilder.seeded filter).sql
        (Lifecycle.probe descriptor "IF NOT EXISTS" filter)) entries).build.sql
          (.word "IF" :: (question ++ written)) ∧
      IsQuestion question true (naming.probe condition) ∧
      IsStatement written (naming.insertion names filter.parameters.length) ∧ semicolons = 0 := by
  have seeded := (naming.texts spells.read).seeded_sealed missing_read
  cases found : tokenize ((inserted descriptor ((CommandBuilder.seeded filter).sql
      (Lifecycle.probe descriptor "IF NOT EXISTS" filter)) entries).build.sql ++ suffix) with
  | error fault =>
    rw [parse, found] at parsed
    cases parsed
  | ok all =>
    have whole : wholeStatement all = .ok read := by
      rw [parse, found] at parsed
      exact parsed
    rw [tokenize, String.toList_append] at found
    obtain ⟨written, names, named, sealedText, isStatement⟩ :=
      naming.insertion_of_tokens spells.read seeded mapped found
    obtain ⟨others, rfl⟩ : ∃ others, all = .word "IF" :: .word "NOT" :: .word "EXISTS" ::
        .leftParen :: .word "SELECT" :: ((naming.texts spells.read).probeTokens ++
          Token.rightParen :: others) := by
      rw [sealedText] at found
      cases following : tokens suffix.toList with
      | error fault =>
        rw [following] at found
        cases found
      | ok others =>
        rw [following] at found
        cases found
        exact ⟨written ++ others, by simp⟩
    obtain rfl := naming.semicolons_eq_zero spells true whole
    exact ⟨_, written, names, named, sealedText,
      .missing (by cbv) (by cbv) (by cbv) (naming.probe_spelled spells.alone_spelled), isStatement,
      rfl⟩

/-- **The command of a mode that may insert a row, if it is accepted, is its statement**, with the
values of the row in the columns of their entries. -/
theorem creating_of_parse {semicolons : Nat} (spells : filter.Spells condition semicolons)
    {mode : OpenMode} (creates : mode.createsRow = true) {entries : List (String × Value)}
    (mapped : ∀ entry ∈ entries, ∃ property, descriptor.columns.get? property = some entry.1)
    {written : Command} (writes : composed descriptor filter entries mode = some written)
    {read : Statement} (parsed : parse written.sql = .ok read) :
    ∃ names, entries.map (fun entry => columnName? entry.1) = names.map some ∧
      naming.creating filter condition names mode = some read := by
  cases mode with
  | openExisting | append | truncate => cases creates
  | createNew =>
    cases writes
    have empty : Sealed CommandBuilder.empty.build.sql [] := sealed_empty
    cases found : tokenize (inserted descriptor .empty entries).build.sql with
    | error fault =>
      rw [parse, found] at parsed
      cases parsed
    | ok all =>
      rw [tokenize, ← List.append_nil (String.toList _)] at found
      obtain ⟨_, names, named, sealedText, isStatement⟩ :=
        naming.insertion_of_tokens spells.read empty mapped found
      rw [isStatement.parse sealedText.read] at parsed
      cases parsed
      exact ⟨names, named, rfl⟩
  | openOrCreate =>
    cases writes
    rw [← String.append_empty (s := CommandBuilder.build _ |>.sql)] at parsed
    obtain ⟨question, written, names, named, sealedText, isQuestion, isStatement, rfl⟩ :=
      naming.missing_of_tokens spells mapped parsed
    have isWhole : IsStatement (.word "IF" :: (question ++ written)) (.conditional true
        (naming.probe condition) (naming.insertion names filter.parameters.length)) :=
      .conditional (by cbv) isQuestion isStatement
    rw [String.append_empty, isWhole.parse sealedText.read] at parsed
    cases parsed
    exact ⟨names, named, rfl⟩
  | create =>
    cases writes
    rw [build_sql, build_sql, String.append_assoc] at parsed
    obtain ⟨question, written, names, named, sealedText, isQuestion, isStatement, rfl⟩ :=
      naming.missing_of_tokens spells mapped parsed
    have elseSealed : Sealed " ELSE " [.word "ELSE"] := sealed_of_blank " ELSE" rfl (by cbv)
    have read := sealedText.tokenize_append
      (elseSealed.tokenize_append (naming.texts spells.read).emptying_read)
    have isWhole : IsStatement (.word "IF" :: (question ++ (written ++ Token.word "ELSE" ::
        (naming.texts spells.read).emptyingTokens))) (.branch true (naming.probe condition)
          (naming.insertion names filter.parameters.length) (naming.emptying condition)) :=
      .branch (by cbv) isQuestion isStatement rfl (by cbv)
        (naming.emptying_spelled spells.alone_spelled)
    rw [List.cons_append, List.append_assoc] at read
    rw [isWhole.parse read] at parsed
    cases parsed
    exact ⟨names, named, rfl⟩

/-- **The command of a mode that may insert a row, if it is accepted, does just that**: it
inserts a row with an empty payload at once, or if no row meets the filter. -/
theorem inserts_of_parse {semicolons : Nat} (spells : filter.Spells condition semicolons)
    {mode : OpenMode} (creates : mode.createsRow = true) {entries : List (String × Value)}
    (mapped : ∀ entry ∈ entries, ∃ property, descriptor.columns.get? property = some entry.1)
    {written : Command} (writes : composed descriptor filter entries mode = some written)
    {read : Statement} (parsed : parse written.sql = .ok read) :
    naming.Inserts filter condition mode read written.parameters := by
  obtain ⟨names, -, same⟩ := naming.creating_of_parse spells creates mapped writes parsed
  have inserts (ordinal : Nat) := naming.insertsEmpty_insertion names ordinal
  cases mode with
  | openExisting | append | truncate => cases creates
  | createNew =>
    cases same
    exact .createNew (inserts 0)
  | create =>
    cases writes
    cases same
    exact .create (inserts _) (seeded_goesOn entries)
  | openOrCreate =>
    cases writes
    cases same
    exact .openOrCreate (inserts _) (seeded_goesOn entries)

/-- **The command that truncates, if it is accepted, does just that**: it empties the payloads
of the rows that meet the filter, if there are any. -/
theorem truncates_of_parse {semicolons : Nat} (spells : filter.Spells condition semicolons)
    {read : Statement} (parsed : parse (truncate descriptor filter).sql = .ok read) :
    read = .conditional false (naming.probe condition) (naming.emptying condition) := by
  have asked : tokenize "IF EXISTS" = .ok [.word "IF", .word "EXISTS"] := by cbv
  have tokensAll := ((naming.texts spells.read).seeded_sealed asked).tokenize_append
    (naming.texts spells.read).emptying_read
  rw [← build_sql] at tokensAll
  have whole : wholeStatement (.word "IF" :: (questionWords false ++ Token.leftParen ::
      .word "SELECT" :: ((naming.texts spells.read).probeTokens ++ Token.rightParen ::
        (naming.texts spells.read).emptyingTokens))) = .ok read := by
    rw [truncate, parse, tokensAll] at parsed
    simpa [questionWords, bind, Except.bind] using parsed
  obtain rfl := naming.semicolons_eq_zero spells false whole
  have isQuestion : IsQuestion (.word "EXISTS" :: .leftParen :: .word "SELECT" ::
      ((naming.texts spells.read).probeTokens ++ [Token.rightParen])) false
        (naming.probe condition) :=
    .found (by cbv) (by cbv) (naming.probe_spelled spells.alone_spelled)
  have isWhole : IsStatement (.word "IF" :: (_ ++ (naming.texts spells.read).emptyingTokens))
      (.conditional false (naming.probe condition) (naming.emptying condition)) :=
    .conditional (by cbv) isQuestion (naming.emptying_spelled spells.alone_spelled)
  rw [truncate, isWhole.parse tokensAll] at parsed
  exact (Except.ok.inj parsed).symm

end

/-! ## The query for the handle -/

/-- Names after commas are read one after another. -/
theorem tokenize_names (naming : Naming descriptor) {text : String} {before : List Token}
    (read : tokenize text = .ok before) {columns : List String}
    (mapped : ∀ column ∈ columns, ∃ property, descriptor.columns.get? property = some column) :
    ∃ names : List (List Token), columns.map tokenize = names.map .ok ∧
      tokenize (text ++ String.join (columns.map (", " ++ ·))) =
        .ok (before ++ names.flatMap (Token.comma :: ·)) ∧
      ∀ name ∈ names, ∃ parts, IsName name parts := by
  induction columns generalizing text before with
  | nil => exact ⟨[], rfl, by simpa [String.join] using read, nofun⟩
  | cons column rest inductionHypothesis =>
    obtain ⟨property, known⟩ := mapped column (by simp)
    obtain ⟨name, parts, columnRead, isName⟩ := naming.columns_spelled property column known
    have commaSealed : Sealed ", " [.comma] := sealed_of_blank "," rfl (by cbv)
    have next := (commaSealed.close (by decide) rfl read).tokenize_append columnRead
    obtain ⟨names, each, readAll, spelled⟩ :=
      inductionHypothesis next fun one member => mapped one (by simp [member])
    refine ⟨name :: names, by rw [List.map_cons, List.map_cons, columnRead, each], ?_, ?_⟩
    · simpa [String.join_cons, String.append_assoc] using readAll
    · intro one member
      rcases List.mem_cons.1 member with rfl | later
      · exact ⟨parts, isName⟩
      · exact spelled one later

/-- The tokens of what the query for the handle shows: the path locator, the token, and names
after commas. -/
def shownTokens (naming : Naming descriptor) (names : List (List Token)) : List Token :=
  (naming.payloadTokens ++ [.dot, .word "PathName"] ++ [.leftParen, .rightParen]) ++
    .comma :: ([.word "GET_FILESTREAM_TRANSACTION_CONTEXT", .leftParen, .rightParen] ++
      names.flatMap (Token.comma :: ·))

/-- The query for the handle up to its table. -/
def shownText (descriptor : Descriptor) (wantColumns : Bool) : String :=
  "SELECT " ++ descriptor.payloadColumn ++ ".PathName(), GET_FILESTREAM_TRANSACTION_CONTEXT()" ++
    String.join ((if wantColumns then descriptor.scalarColumns.map Prod.snd else []).map
      (", " ++ ·)) ++ " FROM "

/-- The query for the handle is split into its keywords and what it shows up to its table, and goes
on with whatever the text does. -/
theorem shown_sealed (wantColumns : Bool) :
    ∃ names : List (List Token),
      (if wantColumns then descriptor.scalarColumns.map Prod.snd else []).map tokenize =
        names.map .ok ∧
      (∀ name ∈ names, ∃ parts, IsName name parts) ∧
      Sealed (shownText descriptor wantColumns)
        (.word "SELECT" :: (naming.shownTokens names ++ [Token.word "FROM"])) := by
  have selectSealed : Sealed "SELECT " [.word "SELECT"] := sealed_of_blank "SELECT" rfl (by cbv)
  have shownSealed : Sealed ".PathName(), GET_FILESTREAM_TRANSACTION_CONTEXT()"
      [.dot, .word "PathName", .leftParen, .rightParen, .comma,
        .word "GET_FILESTREAM_TRANSACTION_CONTEXT", .leftParen, .rightParen] :=
    sealed_of_mark (c := ')') ".PathName(), GET_FILESTREAM_TRANSACTION_CONTEXT("
      [.dot, .word "PathName", .leftParen, .rightParen, .comma,
        .word "GET_FILESTREAM_TRANSACTION_CONTEXT", .leftParen] (by rfl) (by decide) rfl
        (by decide) (by cbv)
  have fromSealed : Sealed " FROM " [.word "FROM"] := sealed_of_blank " FROM" rfl (by cbv)
  have path := selectSealed.tokenize_append naming.payload_read
  have shown := shownSealed.close (by decide) rfl path
  obtain ⟨names, each, readNames, spelled⟩ :=
    naming.tokenize_names shown.read (mapped_of_shown descriptor wantColumns)
  have whole := fromSealed.close (by decide) rfl readNames
  refine ⟨names, each, spelled, ?_⟩
  simpa [shownText, shownTokens] using whole

/-- The query for the handle is split into its keywords, what it shows, the table and the
filter. -/
theorem handleQuery_read (filter : Clause) (wantColumns : Bool) :
    ∃ names : List (List Token),
      (if wantColumns then descriptor.scalarColumns.map Prod.snd else []).map tokenize =
        names.map .ok ∧
      (∀ name ∈ names, ∃ parts, IsName name parts) ∧
      tokenize (handleQuery descriptor filter wantColumns).sql =
        (tokenize filter.sql).map fun filterTokens => .word "SELECT" ::
          (naming.shownTokens names ++ Token.word "FROM" ::
            (naming.tableTokens ++ Token.word "WHERE" :: filterTokens)) := by
  obtain ⟨names, each, spelled, shown⟩ := naming.shown_sealed wantColumns
  have whereSealed : Sealed " WHERE " [.word "WHERE"] := sealed_of_blank " WHERE" rfl (by cbv)
  have table := shown.tokenize_append naming.table_read
  have whole := whereSealed.close (by decide) rfl table
  refine ⟨names, each, spelled, ?_⟩
  have text := whole filter.sql.toList
  rw [handleQuery_sql, tokenize, tokenize]
  simpa [shownText, String.append_assoc] using text

/-- What the query for the handle shows, if it is accepted: the path locator of the payload,
the token, and then the columns that the names are. -/
theorem shown_spelled {names : List (List Token)}
    (each : ∀ name ∈ names, ∃ parts, IsName name parts) {rest : List Token} (ends : EndsItem rest)
    (accepted : ∃ result, separated selectItem (naming.shownTokens names ++ rest) = .ok result) :
    ∃ columns : List String, IsList IsItem (naming.shownTokens names)
        (.pathName naming.payload :: .transactionContext :: columns.map .column) ∧
      List.Forall₂ IsColumn names columns := by
  have isName := naming.payload_spelled.append (.word "PathName")
  have shape : naming.shownTokens names ++ rest =
      (naming.payloadTokens ++ [Token.dot, .word "PathName"] ++ [Token.leftParen, .rightParen]) ++
        Token.comma :: ([.word "GET_FILESTREAM_TRANSACTION_CONTEXT", .leftParen, .rightParen] ++
          (names.flatMap (Token.comma :: ·) ++ rest)) := by
    simp [shownTokens]
  rw [shape] at accepted
  have other : startsWith "GET_FILESTREAM_TRANSACTION_CONTEXT"
      (naming.payloadTokens ++ [Token.dot, .word "PathName"]) = false := by
    have first := first_of_separated accepted
    rw [List.append_assoc] at first
    refine isName.other_of_item (fun single => ?_) first
    simp at single
  have asked : asksForPath (naming.payloadParts ++ ["PathName"]) (some .leftParen) = true := by
    have parts := List.length_pos_iff.2 naming.payload_spelled.parts_ne_nil
    have same : Text.sameLetters "PathName" "PathName" = true := by decide
    simp [asksForPath, same, parts]
  have isPath := IsItem.path isName other asked
  rw [List.dropLast_concat] at isPath
  have isContext : IsItem
      [.word "GET_FILESTREAM_TRANSACTION_CONTEXT", .leftParen, .rightParen] .transactionContext :=
    .context (by cbv)
  obtain ⟨columns, isList, areColumns⟩ := isContext.list_of_read each ends
    (rest_of_separated (isPath.read (endsItem_comma _)) accepted)
  exact ⟨columns, .more isPath isList, areColumns⟩

/-- **The query for the handle, if it is accepted, selects from the table by the filter**, and
shows the path locator of the payload and the token before anything else. -/
theorem handleQuery_of_parse {wantColumns : Bool} {read : Statement}
    (parsed : parse (handleQuery descriptor filter wantColumns).sql = .ok read) :
    ∃ items condition semicolons, ∃ _ : filter.Spells condition semicolons,
      read = .select ⟨.pathName naming.payload :: .transactionContext :: items, naming.table,
        some condition⟩ := by
  obtain ⟨names, -, each, tokensAll⟩ := naming.handleQuery_read filter wantColumns
  rw [parse, tokensAll] at parsed
  cases filterRead : tokenize filter.sql with
  | error fault =>
    rw [filterRead] at parsed
    cases parsed
  | ok filterTokens =>
    rw [filterRead] at parsed
    obtain ⟨semicolons, reads⟩ := wholeStatement_cases parsed
    obtain ⟨query, rfl, selected⟩ := statement_select (by cbv) reads
    have isFrom : (Token.word "FROM").isKeyword "FROM" = true := by cbv
    obtain ⟨_, _, _, ⟨_, readItems⟩, -⟩ := selection_cases selected.choose_spec
    obtain ⟨columns, isItems, -⟩ :=
      naming.shown_spelled each (endsItem_keyword isFrom _) ⟨_, readItems⟩
    obtain ⟨tokens, condition, rfl, split, spelled⟩ :=
      selection_of_items isItems naming.table_spelled selected
    exact ⟨_, condition, semicolons, ⟨tokens, split ▸ filterRead, spelled⟩, rfl⟩

end Naming

end Lifecycle

end RowPayload
