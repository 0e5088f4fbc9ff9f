import RowPayload.Proofs.Sql.Grammar

/-!
# Reading what the grammar allows

The reader of each kind of tree takes every row of tokens that the grammar allows for it,
up to what follows, and returns the tree. What follows must not go on the tree: no dot may
follow a name, no `AND` a conjunction, and so on.
-/

namespace RowPayload.Sql

/-- A reader returns a tree and leaves the tokens after it. -/
def Reads {α : Type} {bound : List Token → Prop}
    (result : Except SyntaxFault (α × { rest // bound rest })) (value : α)
    (rest : List Token) : Prop :=
  ∃ fits, result = .ok (value, ⟨rest, fits⟩)

/-! ## Keywords and marks -/

/-- A keyword that comes first is taken. -/
theorem afterKeyword?_cons {keyword : String} {token : Token}
    (isKeyword : token.isKeyword keyword = true) (rest : List Token) :
    afterKeyword? keyword (token :: rest) = some ⟨rest, Nat.lt_succ_self _⟩ := by
  rw [afterKeyword?, if_pos isKeyword]

/-- A keyword that does not come first is not taken. -/
theorem afterKeyword?_of_startsWith {keyword : String} {input : List Token}
    (other : startsWith keyword input = false) : afterKeyword? keyword input = none := by
  cases input with
  | nil => rfl
  | cons token rest =>
    have noKeyword : ¬ token.isKeyword keyword = true := by
      simpa [startsWith] using other
    rw [afterKeyword?, if_neg noKeyword]

/-- A required keyword that comes first is taken. -/
theorem requireKeyword_cons {keyword : String} {token : Token}
    (isKeyword : token.isKeyword keyword = true) (rest : List Token) :
    requireKeyword keyword (token :: rest) = .ok ⟨rest, Nat.lt_succ_self _⟩ := by
  rw [requireKeyword, afterKeyword?_cons isKeyword]

/-- A required token that comes first is taken. -/
theorem requireToken_cons (expected : Token) (rest : List Token) :
    requireToken expected (expected :: rest) = .ok ⟨rest, Nat.lt_succ_self _⟩ := by
  rw [requireToken, if_pos rfl]

/-- A token is one keyword at most. -/
theorem startsWith_other {keyword other : String} {token : Token}
    (isKeyword : token.isKeyword keyword = true)
    (different : Text.sameLetters keyword other = false) (rest : List Token) :
    startsWith other (token :: rest) = false := by
  cases token with
  | word letters =>
    have same : Text.lower letters.toList = Text.lower keyword.toList := by
      simpa [Token.isKeyword, Text.sameLetters] using isKeyword
    simpa [startsWith, Token.isKeyword, Text.sameLetters, same] using different
  | _ => cases isKeyword

/-- A keyword that comes first is not taken for another. -/
theorem afterKeyword?_other {keyword other : String} {token : Token}
    (isKeyword : token.isKeyword keyword = true)
    (different : Text.sameLetters keyword other = false) (rest : List Token) :
    afterKeyword? other (token :: rest) = none :=
  afterKeyword?_of_startsWith (startsWith_other isKeyword different rest)

/-- No keyword is another token. -/
theorem head?_ne_of_isKeyword {keyword : String} {token mark : Token}
    (isKeyword : token.isKeyword keyword = true) (noWord : mark.isKeyword keyword = false)
    (rest : List Token) : (token :: rest).head? ≠ some mark := by
  rintro ⟨⟩
  rw [noWord] at isKeyword
  cases isKeyword

/-! ## Names -/

variable {tokens rest : List Token}

/-- A part of a name is read. -/
theorem namePart_cons {token : Token} {part : String} (isPart : IsPart token part)
    (rest : List Token) : Reads (namePart (token :: rest)) part rest := by
  cases isPart <;> exact ⟨Nat.lt_succ_self _, rfl⟩

/-- A name is read up to a token that is no dot. -/
theorem IsName.read {parts : List String} (isName : IsName tokens parts)
    (noDot : rest.head? ≠ some .dot) : Reads (nameParts (tokens ++ rest)) parts rest := by
  induction isName with
  | @last token part isPart =>
    obtain ⟨fits, read⟩ := namePart_cons isPart rest
    show Reads (nameParts (token :: rest)) [part] rest
    refine ⟨fits, ?_⟩
    rw [nameParts, read]
    cases rest with
    | nil => rfl
    | cons next others =>
      cases next <;> first | rfl | exact absurd rfl noDot
  | @more token part others parts isPart _ inductionHypothesis =>
    obtain ⟨_, read⟩ := namePart_cons isPart (.dot :: (others ++ rest))
    obtain ⟨fits, readOthers⟩ := inductionHypothesis
    show Reads (nameParts (token :: .dot :: (others ++ rest))) (part :: parts) rest
    refine ⟨by simp only [List.length_cons]; omega, ?_⟩
    rw [nameParts, read]
    dsimp only
    rw [readOthers]

/-- The last part of a name is read up to a token that is no dot. -/
theorem IsColumn.read {name : String} (isColumn : IsColumn tokens name)
    (noDot : rest.head? ≠ some .dot) : Reads (columnName (tokens ++ rest)) name rest := by
  obtain ⟨isName⟩ := isColumn
  obtain ⟨fits, read⟩ := isName.read noDot
  refine ⟨fits, ?_⟩
  rw [columnName, read]
  rfl

/-- The name of a table is read up to a token that is no dot. -/
theorem IsName.readTable {parts : List String} (isName : IsName tokens parts)
    (noDot : rest.head? ≠ some .dot) :
    Reads (tableName (tokens ++ rest)) (".".intercalate parts) rest := by
  obtain ⟨fits, read⟩ := isName.read noDot
  refine ⟨fits, ?_⟩
  rw [tableName, read]
  rfl

/-! ## First tokens -/

/-- A name starts with a part of it. -/
theorem IsName.head {parts : List String} (isName : IsName tokens parts) (rest : List Token) :
    ∃ token part, IsPart token part ∧ (tokens ++ rest).head? = some token := by
  cases isName with
  | last isPart => exact ⟨_, _, isPart, rfl⟩
  | more isPart _ => exact ⟨_, _, isPart, rfl⟩

/-- A name starts with a keyword if what it begins does. -/
theorem IsName.afterKeyword? {parts : List String} (isName : IsName tokens parts)
    {keyword : String} (other : startsWith keyword tokens = false) (rest : List Token) :
    afterKeyword? keyword (tokens ++ rest) = none := by
  apply afterKeyword?_of_startsWith
  cases isName <;> exact other

/-- A place for a value starts with no parenthesis. -/
theorem IsOperand.head {value : Operand} (isOperand : IsOperand tokens value)
    (rest inside : List Token) : tokens ++ rest ≠ .leftParen :: inside := by
  intro equal
  have first : (tokens ++ rest).head? = some .leftParen := by rw [equal, List.head?_cons]
  cases isOperand with
  | parameter | binary | integer | text => cases first
  | null keyword =>
    cases first
    cases keyword
  | column isColumn =>
    obtain ⟨isName⟩ := isColumn
    obtain ⟨token, part, isPart, starts⟩ := isName.head rest
    rw [starts] at first
    cases first
    cases isPart

/-! ## Operands -/

/-- A place that starts with a part of a name, and not with `NULL`, is a column. -/
theorem operand_name {input : List Token} {token : Token} {part : String}
    (starts : input.head? = some token) (isPart : IsPart token part)
    (absent : afterKeyword? "NULL" input = none) :
    operand input = (columnName input).map fun (name, rest) => (.column name, rest) := by
  cases input with
  | nil => cases starts
  | cons first rest =>
    cases starts
    cases isPart <;> simp only [operand, absent]

/-- A place for a value is read up to a token that is no dot. -/
theorem IsOperand.read {value : Operand} (isOperand : IsOperand tokens value)
    (noDot : rest.head? ≠ some .dot) : Reads (operand (tokens ++ rest)) value rest := by
  cases isOperand with
  | parameter | binary | integer | text => exact ⟨Nat.lt_succ_self _, rfl⟩
  | @null token keyword =>
    show Reads (operand (token :: rest)) .null rest
    refine ⟨Nat.lt_succ_self _, ?_⟩
    cases token with
    | word letters => simp only [operand, afterKeyword?_cons keyword]
    | _ => cases keyword
  | column isColumn other =>
    obtain ⟨isName⟩ := isColumn
    obtain ⟨token, part, isPart, starts⟩ := isName.head rest
    obtain ⟨fits, read⟩ := (IsColumn.ofName isName).read noDot
    refine ⟨fits, ?_⟩
    rw [operand_name starts isPart (isName.afterKeyword? other rest), read]
    rfl

/-! ## Lists -/

/-- A list is read up to a token that is no comma, if its elements are read up to commas and
up to what follows the list. -/
theorem IsList.read {α : Type} {element : List Token → α → Prop}
    {reader : (input : List Token) → Parsed α input} {follows : List Token → Prop}
    (reads : ∀ tokens value rest, element tokens value → follows rest →
      Reads (reader (tokens ++ rest)) value rest)
    (comma : ∀ rest, follows (.comma :: rest)) {values : List α}
    (isList : IsList element tokens values) (ends : follows rest)
    (noComma : rest.head? ≠ some .comma) :
    Reads (separated reader (tokens ++ rest)) values rest := by
  induction isList with
  | @last tokens value isElement =>
    obtain ⟨fits, read⟩ := reads tokens value rest isElement ends
    refine ⟨fits, ?_⟩
    rw [separated, read]
    cases rest with
    | nil => rfl
    | cons next others =>
      cases next <;> first | rfl | exact absurd rfl noComma
  | @more tokens others value values isElement _ inductionHypothesis =>
    rw [List.append_assoc, List.cons_append]
    obtain ⟨_, read⟩ := reads tokens value _ isElement (comma (others ++ rest))
    obtain ⟨fits, readOthers⟩ := inductionHypothesis
    refine ⟨by simp only [List.length_append, List.length_cons] at fits ⊢; omega, ?_⟩
    rw [separated, read]
    dsimp only
    rw [readOthers]

/-- An assignment is read up to a token that is no dot. -/
theorem IsAssignment.read {change : String × Operand} (isAssignment : IsAssignment tokens change)
    (noDot : rest.head? ≠ some .dot) : Reads (assignment (tokens ++ rest)) change rest := by
  obtain @⟨column, name, place, value, isColumn, isOperand⟩ := isAssignment
  rw [List.append_assoc, List.cons_append]
  have name : Reads (columnName (column ++ .equals :: (place ++ rest))) _ _ := isColumn.read nofun
  obtain ⟨_, readColumn⟩ := name
  obtain ⟨_, readOperand⟩ := isOperand.read noDot
  refine ⟨by simp only [List.length_append, List.length_cons]; omega, ?_⟩
  rw [assignment, readColumn]
  simp only [bind, Except.bind, requireToken_cons, readOperand]
  rfl

/-- A pair of parentheses with nothing between them is taken. -/
theorem emptyParens_cons (rest : List Token) :
    ∃ fits, emptyParens (.leftParen :: .rightParen :: rest) = .ok ⟨rest, fits⟩ :=
  ⟨by simp only [List.length_cons]; omega, rfl⟩

/-- What may follow a selected item: neither a dot nor a parenthesis. -/
def EndsItem (rest : List Token) : Prop := ∀ token ∈ rest.head?, token ≠ .dot ∧ token ≠ .leftParen

/-- A comma may follow a selected item. -/
theorem endsItem_comma (rest : List Token) : EndsItem (.comma :: rest) := by
  rintro mark ⟨⟩
  exact ⟨nofun, nofun⟩

/-- A keyword may follow a selected item. -/
theorem endsItem_keyword {keyword : String} {token : Token}
    (isKeyword : token.isKeyword keyword = true) (rest : List Token) :
    EndsItem (token :: rest) := by
  rintro mark ⟨⟩
  exact ⟨fun dot => head?_ne_of_isKeyword isKeyword rfl [] (congrArg some dot),
    fun paren => head?_ne_of_isKeyword isKeyword rfl [] (congrArg some paren)⟩

/-- An item that starts with a part of a name, and not with the name of the context, is a
column or a path locator. -/
theorem selectItem_name {input : List Token} {token : Token} {part : String}
    (starts : input.head? = some token) (isPart : IsPart token part)
    (absent : afterKeyword? "GET_FILESTREAM_TRANSACTION_CONTEXT" input = none) :
    selectItem input = (do
      let (parts, ⟨after, shorter⟩) ← nameParts input
      if asksForPath parts after.head? then
        let ⟨left, closed⟩ ← emptyParens after
        return (.pathName (parts.dropLast.getLastD ""), ⟨left, Nat.lt_trans closed shorter⟩)
      else return (.column (parts.getLastD ""), ⟨after, shorter⟩)) := by
  cases input with
  | nil => cases starts
  | cons first rest =>
    cases starts
    cases isPart <;> simp only [selectItem, absent]

/-- A selected item is read up to a token that is neither a dot nor a parenthesis. -/
theorem IsItem.read {item : SelectItem} (isItem : IsItem tokens item) (ends : EndsItem rest) :
    Reads (selectItem (tokens ++ rest)) item rest := by
  cases isItem with
  | one => exact ⟨Nat.lt_succ_self _, rfl⟩
  | @context token keyword =>
    show Reads (selectItem (token :: .leftParen :: .rightParen :: rest)) _ rest
    refine ⟨by simp only [List.length_cons]; omega, ?_⟩
    obtain ⟨_, parens⟩ := emptyParens_cons rest
    cases token with
    | word letters =>
      simp only [selectItem, afterKeyword?_cons keyword, parens]
      rfl
    | _ => cases keyword
  | @path tokens parts isName other asked =>
    rw [List.append_assoc]
    obtain ⟨token, part, isPart, starts⟩ := isName.head ([.leftParen, .rightParen] ++ rest)
    have name : Reads (nameParts (tokens ++ ([.leftParen, .rightParen] ++ rest))) parts _ :=
      isName.read nofun
    obtain ⟨_, read⟩ := name
    obtain ⟨_, parens⟩ := emptyParens_cons rest
    refine ⟨by simp only [List.length_append, List.length_cons]; omega, ?_⟩
    rw [selectItem_name starts isPart (isName.afterKeyword? other _), read]
    simp only [bind, Except.bind, List.cons_append, List.nil_append, List.head?_cons, asked, parens]
    rfl
  | column isColumn other =>
    obtain ⟨isName⟩ := isColumn
    obtain ⟨token, part, isPart, starts⟩ := isName.head rest
    have noDot : rest.head? ≠ some .dot := fun dot => (ends _ dot).1 rfl
    have noPath (parts : List String) : asksForPath parts rest.head? = false := by
      have noParen : rest.head? ≠ some .leftParen := fun paren => (ends _ paren).2 rfl
      simp [asksForPath, noParen]
    obtain ⟨fits, read⟩ := isName.read noDot
    refine ⟨fits, ?_⟩
    rw [selectItem_name starts isPart (isName.afterKeyword? other _), read]
    simp only [bind, Except.bind, noPath]
    rfl

/-- A list of selected items is read up to a keyword. -/
theorem IsList.readItems {items : List SelectItem} (isItems : IsList IsItem tokens items)
    {keyword : String} {token : Token} (isKeyword : token.isKeyword keyword = true)
    (rest : List Token) :
    Reads (separated selectItem (tokens ++ token :: rest)) items (token :: rest) :=
  isItems.read (fun _ _ _ isItem follows => isItem.read follows) endsItem_comma
    (endsItem_keyword isKeyword rest) (head?_ne_of_isKeyword isKeyword rfl rest)

/-! ## Conditions -/

/-- What the readers of conditions do with the tokens of a condition of each rank. A
conjunction and an alternative go on with what follows, so the readers of what follows
say what they return. -/
def ReadsRank (rank : Rank) (tokens : List Token) (condition : Condition) : Prop :=
  match rank with
  | .atom => ∀ rest, rest.head? ≠ some .dot → Reads (atom (tokens ++ rest)) condition rest
  | .conjunction => ∀ rest whole after, rest.head? ≠ some .dot →
    Reads (moreConjuncts condition rest) whole after →
    Reads (conjunction (tokens ++ rest)) whole after
  | .alternative => ∀ rest whole after, rest.head? ≠ some .dot →
    startsWith "AND" rest = false → Reads (moreDisjuncts condition rest) whole after →
    Reads (disjunction (tokens ++ rest)) whole after

/-- Conjunctions that end are not gone on with. -/
theorem moreConjuncts_nil {condition : Condition} (noAnd : startsWith "AND" rest = false) :
    Reads (moreConjuncts condition rest) condition rest := by
  refine ⟨Nat.le_refl _, ?_⟩
  rw [moreConjuncts, afterKeyword?_of_startsWith noAnd]

/-- Alternatives that end are not gone on with. -/
theorem moreDisjuncts_nil {condition : Condition} (noOr : startsWith "OR" rest = false) :
    Reads (moreDisjuncts condition rest) condition rest := by
  refine ⟨Nat.le_refl _, ?_⟩
  rw [moreDisjuncts, afterKeyword?_of_startsWith noOr]

/-- An atom that does not start with a parenthesis is an equality. -/
theorem atom_equal {input : List Token} (noParen : ∀ inside, input ≠ .leftParen :: inside) :
    atom input = (do
      let (left, ⟨afterLeft, first⟩) ← operand input
      let ⟨afterEquals, second⟩ ← requireToken .equals afterLeft
      let (right, ⟨after, third⟩) ← operand afterEquals
      return (.equal left right, ⟨after, Nat.lt_trans third (Nat.lt_trans second first)⟩)) := by
  rw [atom]
  intro inside equal
  exact noParen inside equal

/-- **A condition is read as what it spells**, whatever its rank. -/
theorem IsCondition.readsRank {rank : Rank} {condition : Condition}
    (isCondition : IsCondition rank tokens condition) : ReadsRank rank tokens condition := by
  -- The reader's loops read the first part before they know of a second one, so the
  -- hypothesis on it goes on from a loop in the middle rather than from a condition.
  induction isCondition with
  | @parens tokens condition _ inductionHypothesis =>
    intro rest noDot
    rw [List.cons_append, List.append_assoc, List.singleton_append]
    obtain ⟨_, read⟩ := inductionHypothesis (.rightParen :: rest) condition (.rightParen :: rest)
      (by simp) rfl (moreDisjuncts_nil rfl)
    refine ⟨by simp only [List.length_append, List.length_cons]; omega, ?_⟩
    rw [atom, read]
    dsimp only
    rw [requireToken_cons]
  | @equal left right leftValue rightValue isLeft isRight =>
    intro rest noDot
    rw [List.append_assoc, List.cons_append]
    have first : Reads (operand (left ++ .equals :: (right ++ rest))) leftValue _ :=
      isLeft.read (by simp)
    obtain ⟨_, readLeft⟩ := first
    obtain ⟨_, readRight⟩ := isRight.read noDot
    refine ⟨by simp only [List.length_append, List.length_cons]; omega, ?_⟩
    rw [atom_equal (isLeft.head _), readLeft]
    simp only [bind, Except.bind, requireToken_cons, readRight]
    rfl
  | @oneAtom tokens condition _ inductionHypothesis =>
    intro rest whole after noDot goesOn
    obtain ⟨_, read⟩ := inductionHypothesis rest noDot
    obtain ⟨_, readMore⟩ := goesOn
    refine ⟨by omega, ?_⟩
    rw [conjunction, read]
    dsimp only
    rw [readMore]
  | @both left right token first second _ keyword _ leftHypothesis rightHypothesis =>
    intro rest whole after noDot goesOn
    rw [List.append_assoc, List.cons_append]
    apply leftHypothesis (token :: (right ++ rest)) whole after
      (head?_ne_of_isKeyword keyword rfl _)
    obtain ⟨_, read⟩ := rightHypothesis rest noDot
    obtain ⟨_, readMore⟩ := goesOn
    refine ⟨by simp only [List.length_append, List.length_cons]; omega, ?_⟩
    rw [moreConjuncts, afterKeyword?_cons keyword]
    dsimp only
    rw [read]
    dsimp only
    rw [readMore]
  | @oneConjunction tokens condition _ inductionHypothesis =>
    intro rest whole after noDot noAnd goesOn
    obtain ⟨_, read⟩ := inductionHypothesis rest condition rest noDot (moreConjuncts_nil noAnd)
    obtain ⟨_, readMore⟩ := goesOn
    refine ⟨by omega, ?_⟩
    rw [disjunction, read]
    dsimp only
    rw [readMore]
  | @either left right token first second _ keyword _ leftHypothesis rightHypothesis =>
    intro rest whole after noDot noAnd goesOn
    rw [List.append_assoc, List.cons_append]
    apply leftHypothesis (token :: (right ++ rest)) whole after
      (head?_ne_of_isKeyword keyword rfl _) (startsWith_other keyword (by decide) _)
    obtain ⟨_, read⟩ := rightHypothesis rest second rest noDot (moreConjuncts_nil noAnd)
    obtain ⟨_, readMore⟩ := goesOn
    refine ⟨by simp only [List.length_append, List.length_cons]; omega, ?_⟩
    rw [moreDisjuncts, afterKeyword?_cons keyword]
    dsimp only
    rw [read]
    dsimp only
    rw [readMore]

/-! ## Selections -/

/-- What may follow a statement: nothing that could be taken for more of it. -/
structure Ends (rest : List Token) : Prop where
  noDot : rest.head? ≠ some .dot
  noComma : rest.head? ≠ some .comma
  noAnd : startsWith "AND" rest = false
  noOr : startsWith "OR" rest = false
  noWhere : startsWith "WHERE" rest = false

/-- Nothing may follow a statement. -/
theorem ends_nil : Ends [] := ⟨nofun, nofun, rfl, rfl, rfl⟩

/-- A closing parenthesis may follow a selection. -/
theorem ends_rightParen (rest : List Token) : Ends (.rightParen :: rest) :=
  ⟨nofun, nofun, rfl, rfl, rfl⟩

/-- A semicolon may follow a statement. -/
theorem ends_semicolon (rest : List Token) : Ends (.semicolon :: rest) :=
  ⟨nofun, nofun, rfl, rfl, rfl⟩

/-- `ELSE` may follow a statement. -/
theorem ends_else {token : Token} (isElse : token.isKeyword "ELSE" = true) (rest : List Token) :
    Ends (token :: rest) where
  noDot := head?_ne_of_isKeyword isElse rfl rest
  noComma := head?_ne_of_isKeyword isElse rfl rest
  noAnd := startsWith_other isElse (by decide) rest
  noOr := startsWith_other isElse (by decide) rest
  noWhere := startsWith_other isElse (by decide) rest

/-- A filter is read up to the end of its statement. -/
theorem IsFilter.read {filter : Option Condition} (isFilter : IsFilter tokens filter)
    (ends : Ends rest) : Reads (whereClause (tokens ++ rest)) filter rest := by
  cases isFilter with
  | absent =>
    show Reads (whereClause rest) none rest
    refine ⟨Nat.le_refl _, ?_⟩
    rw [whereClause, afterKeyword?_of_startsWith ends.noWhere]
  | @present token tokens condition keyword isCondition =>
    obtain ⟨_, read⟩ := isCondition.readsRank rest condition rest ends.noDot ends.noAnd
      (moreDisjuncts_nil ends.noOr)
    show Reads (whereClause (token :: (tokens ++ rest))) (some condition) rest
    refine ⟨by simp only [List.length_cons]; omega, ?_⟩
    rw [whereClause, afterKeyword?_cons keyword]
    dsimp only
    rw [read]
    rfl

/-- No filter starts with a mark, and what follows the statement does not either. -/
theorem IsFilter.head?_ne {filter : Option Condition} (isFilter : IsFilter tokens filter)
    {mark : Token} (noWord : mark.isKeyword "WHERE" = false) (ends : rest.head? ≠ some mark) :
    (tokens ++ rest).head? ≠ some mark := by
  cases isFilter with
  | absent => exact ends
  | present keyword _ => exact head?_ne_of_isKeyword keyword noWord _

/-- A selection is read up to its end. -/
theorem IsSelection.read {query : Select} (isSelection : IsSelection tokens query)
    (ends : Ends rest) : Reads (selection (tokens ++ rest)) query rest := by
  obtain @⟨shown, table, filter, token, items, parts, condition, isItems, keyword, isTable,
    isFilter⟩ := isSelection
  rw [List.append_assoc, List.cons_append, List.append_assoc]
  obtain ⟨_, readItems⟩ := isItems.readItems keyword (table ++ (filter ++ rest))
  obtain ⟨_, readTable⟩ := isTable.readTable (isFilter.head?_ne rfl ends.noDot)
  obtain ⟨_, readFilter⟩ := isFilter.read ends
  refine ⟨by simp only [List.length_append, List.length_cons]; omega, ?_⟩
  rw [selection, readItems]
  simp only [bind, Except.bind, requireKeyword_cons keyword, readTable, readFilter]
  rfl

/-! ## Statements -/

/-- A question is read up to whatever follows its closing parenthesis. -/
theorem IsQuestion.read {negated : Bool} {probe : Select}
    (isQuestion : IsQuestion tokens negated probe) (rest : List Token) :
    Reads (existence (tokens ++ rest)) (negated, probe) rest := by
  cases isQuestion with
  | @found existsWord selectWord tokens probe isExists isSelect isProbe =>
    rw [List.cons_append, List.cons_append, List.cons_append, List.append_assoc,
      List.singleton_append]
    obtain ⟨_, read⟩ := isProbe.read (ends_rightParen rest)
    refine ⟨by simp only [List.length_append, List.length_cons]; omega, ?_⟩
    rw [existence, afterKeyword?_other isExists (by decide)]
    simp only [bind, Except.bind, requireKeyword_cons isExists, requireToken_cons,
      requireKeyword_cons isSelect, read]
    rfl
  | @missing notWord existsWord selectWord tokens probe isNot isExists isSelect isProbe =>
    rw [List.cons_append, List.cons_append, List.cons_append, List.cons_append,
      List.append_assoc, List.singleton_append]
    obtain ⟨_, read⟩ := isProbe.read (ends_rightParen rest)
    refine ⟨by simp only [List.length_append, List.length_cons]; omega, ?_⟩
    rw [existence, afterKeyword?_cons isNot]
    simp only [bind, Except.bind, requireKeyword_cons isExists, requireToken_cons,
      requireKeyword_cons isSelect, read]
    rfl

/-- An insertion is read after its keyword, whatever follows it. -/
theorem reads_insertion {intoWord valuesWord : Token} {table columns places : List Token}
    {parts names : List String} {operands : List Operand}
    (isInto : intoWord.isKeyword "INTO" = true) (isTable : IsName table parts)
    (isColumns : IsList IsColumn columns names) (isValues : valuesWord.isKeyword "VALUES" = true)
    (isOperands : IsList IsOperand places operands) (rest : List Token) :
    Reads (insertion (intoWord :: (table ++ .leftParen :: (columns ++ .rightParen :: valuesWord ::
      .leftParen :: (places ++ [.rightParen]))) ++ rest))
      (.insert (".".intercalate parts) names operands) rest := by
  have shape : intoWord :: (table ++ .leftParen :: (columns ++ .rightParen :: valuesWord ::
      .leftParen :: (places ++ [.rightParen]))) ++ rest =
      intoWord :: (table ++ .leftParen :: (columns ++ .rightParen :: valuesWord ::
        .leftParen :: (places ++ .rightParen :: rest))) := by
    simp
  rw [shape]
  have readsColumns (others : List Token) : Reads (separated columnName (columns ++ .rightParen ::
      others)) names (.rightParen :: others) :=
    isColumns.read (fun _ _ _ isColumn => isColumn.read) (fun _ => nofun) nofun nofun
  have readsValues : Reads (separated operand (places ++ .rightParen :: rest)) operands
      (.rightParen :: rest) :=
    isOperands.read (fun _ _ _ isOperand => isOperand.read) (fun _ => nofun) nofun nofun
  have readsTable (others : List Token) : Reads (tableName (table ++ .leftParen :: others))
      (".".intercalate parts) (.leftParen :: others) := isTable.readTable nofun
  obtain ⟨_, readTable⟩ := readsTable (columns ++ .rightParen :: valuesWord :: .leftParen ::
    (places ++ .rightParen :: rest))
  obtain ⟨_, readColumns⟩ := readsColumns (valuesWord :: .leftParen ::
    (places ++ .rightParen :: rest))
  obtain ⟨_, readValues⟩ := readsValues
  refine ⟨by simp only [List.length_append, List.length_cons]; omega, ?_⟩
  simp only [insertion, bind, Except.bind, requireKeyword_cons isInto, readTable,
    requireToken_cons, readColumns, requireKeyword_cons isValues, readValues]
  rfl

/-- An update is read after its keyword, up to the end of its statement. -/
theorem reads_updating {setWord : Token} {table changes filter : List Token}
    {parts : List String} {assignments : List (String × Operand)} {condition : Option Condition}
    (isTable : IsName table parts) (isSet : setWord.isKeyword "SET" = true)
    (isAssignments : IsList IsAssignment changes assignments)
    (isFilter : IsFilter filter condition) (ends : Ends rest) :
    Reads (updating (table ++ setWord :: (changes ++ filter) ++ rest))
      (.update (".".intercalate parts) assignments condition) rest := by
  rw [List.append_assoc, List.cons_append, List.append_assoc]
  obtain ⟨_, readTable⟩ := isTable.readTable (head?_ne_of_isKeyword isSet rfl
    (changes ++ (filter ++ rest)))
  obtain ⟨_, readChanges⟩ := isAssignments.read
    (fun _ _ _ isAssignment => isAssignment.read) (fun _ => nofun)
    (isFilter.head?_ne rfl ends.noDot) (isFilter.head?_ne rfl ends.noComma)
  obtain ⟨_, readFilter⟩ := isFilter.read ends
  refine ⟨by simp only [List.length_append, List.length_cons]; omega, ?_⟩
  simp only [updating, bind, Except.bind, readTable, requireKeyword_cons isSet, readChanges,
    readFilter]
  rfl

/-- **A statement is read as what it spells**, up to what cannot go on it. -/
theorem IsStatement.read {spelled : Statement} (isStatement : IsStatement tokens spelled)
    (ends : Ends rest) (noElse : spelled.isOpen = true → startsWith "ELSE" rest = false) :
    Reads (statement (tokens ++ rest)) spelled rest := by
  induction isStatement generalizing rest with
  | insert isInsert isInto isTable isColumns isValues isOperands =>
    obtain ⟨fits, read⟩ := reads_insertion isInto isTable isColumns isValues isOperands rest
    rw [List.cons_append]
    refine ⟨Nat.lt_succ_of_lt fits, ?_⟩
    rw [statement, afterKeyword?_other isInsert (by decide), afterKeyword?_cons isInsert]
    dsimp only
    rw [read]
    rfl
  | update isUpdate isTable isSet isAssignments isFilter =>
    obtain ⟨fits, read⟩ := reads_updating isTable isSet isAssignments isFilter ends
    rw [List.cons_append]
    refine ⟨Nat.lt_succ_of_lt fits, ?_⟩
    rw [statement, afterKeyword?_other isUpdate (by decide),
      afterKeyword?_other isUpdate (by decide), afterKeyword?_cons isUpdate]
    dsimp only
    rw [read]
    rfl
  | @select selectWord tokens query isSelect isQuery =>
    obtain ⟨_, read⟩ := isQuery.read ends
    refine ⟨by simp only [List.length_append, List.length_cons] at *; omega, ?_⟩
    show statement (selectWord :: (tokens ++ rest)) = _
    rw [statement, afterKeyword?_other isSelect (by decide),
      afterKeyword?_other isSelect (by decide), afterKeyword?_other isSelect (by decide),
      afterKeyword?_cons isSelect]
    dsimp only
    rw [read]
    rfl
  | @conditional ifWord question tokens negated probe body isIf isQuestion _ bodyHypothesis =>
    rw [List.cons_append, List.append_assoc]
    have noElse := noElse rfl
    obtain ⟨_, readQuestion⟩ := isQuestion.read (tokens ++ rest)
    obtain ⟨_, readBody⟩ := bodyHypothesis ends fun _ => noElse
    refine ⟨by simp only [List.length_append, List.length_cons]; omega, ?_⟩
    rw [statement, afterKeyword?_cons isIf]
    dsimp only
    rw [readQuestion]
    dsimp only
    rw [readBody]
    dsimp only
    rw [afterKeyword?_of_startsWith noElse]
  | @branch ifWord elseWord question tokens others negated probe body otherwise isIf isQuestion _
      closed isElse _ bodyHypothesis otherwiseHypothesis =>
    rw [List.cons_append, List.append_assoc, List.append_assoc, List.cons_append]
    obtain ⟨_, readQuestion⟩ := isQuestion.read (tokens ++ elseWord :: (others ++ rest))
    obtain ⟨_, readBody⟩ := bodyHypothesis (ends_else isElse (others ++ rest)) fun opened => by
      rw [closed] at opened
      cases opened
    obtain ⟨_, readOtherwise⟩ := otherwiseHypothesis ends noElse
    refine ⟨by simp only [List.length_append, List.length_cons]; omega, ?_⟩
    rw [statement, afterKeyword?_cons isIf]
    dsimp only
    rw [readQuestion]
    dsimp only
    rw [readBody]
    dsimp only
    rw [afterKeyword?_cons isElse]
    dsimp only
    rw [readOtherwise]

/-- **A whole statement is read as what it spells**, with any number of semicolons after it. -/
theorem IsStatement.readWhole {spelled : Statement} (isStatement : IsStatement tokens spelled)
    (semicolons : Nat) :
    wholeStatement (tokens ++ List.replicate semicolons .semicolon) = .ok spelled := by
  have ends : Ends (List.replicate semicolons .semicolon) := by
    cases semicolons with
    | zero => exact ends_nil
    | succ others => exact ends_semicolon _
  have noElse : startsWith "ELSE" (List.replicate semicolons .semicolon) = false := by
    cases semicolons <;> rfl
  have dropped : (List.replicate semicolons Token.semicolon).dropWhile (· == .semicolon) = [] := by
    rw [List.dropWhile_replicate]
    rfl
  obtain ⟨_, read⟩ := isStatement.read ends fun _ => noElse
  rw [wholeStatement, read]
  simp only [bind, Except.bind, dropped]
  rfl

/-- A text whose tokens are a statement is parsed as it. -/
theorem IsStatement.parse {text : String} {spelled : Statement} (read : tokenize text = .ok tokens)
    (isStatement : IsStatement tokens spelled) : parse text = .ok spelled := by
  have whole := isStatement.readWhole 0
  rw [List.replicate_zero, List.append_nil] at whole
  rw [Sql.parse, read]
  exact whole

end RowPayload.Sql
