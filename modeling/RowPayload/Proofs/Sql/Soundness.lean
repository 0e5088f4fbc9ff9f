import Mathlib
import RowPayload.Proofs.Sql.Reading
import RowPayload.Proofs.Work.Checked

/-!
# What readers accept

Whatever a reader of names, places or conditions takes off the front of its input spells the
tree it returns, by the rules of the grammar. With the converse, that what is spelled is
read, a reader that accepts some tokens accepts them before anything that cannot go on them.
-/

namespace RowPayload.Sql

/-- What is taken off in two steps is taken off one after the other. -/
theorem split_append {α : Type} {input first middle second rest : List α}
    (start : input = first ++ middle) (following : middle = second ++ rest) :
    input = first ++ second ++ rest := by
  rw [start, following, List.append_assoc]

/-- A reader has read one thing only. -/
theorem Reads.unique {α : Type} {bound : List Token → Prop}
    {result : Except SyntaxFault (α × { rest // bound rest })} {value other : α}
    {rest otherRest : List Token} (first : Reads result value rest)
    (second : Reads result other otherRest) : value = other ∧ rest = otherRest := by
  obtain ⟨_, rfl⟩ := first
  obtain ⟨_, same⟩ := second
  cases same
  exact ⟨rfl, rfl⟩

/-! ## Single tokens -/

/-- A keyword that was found came first. -/
theorem afterKeyword?_sound {keyword : String} {input : List Token} {rest : Shorter input}
    (found : afterKeyword? keyword input = some rest) :
    ∃ token, input = token :: rest.val ∧ token.isKeyword keyword = true := by
  cases input with
  | nil => cases found
  | cons token others =>
    rw [afterKeyword?] at found
    split at found
    · rename_i isKeyword
      cases found
      exact ⟨token, rfl, isKeyword⟩
    · cases found

/-- Where a keyword was not found, the input does not start with it. -/
theorem startsWith_of_afterKeyword? {keyword : String} {input : List Token}
    (absent : afterKeyword? keyword input = none) : startsWith keyword input = false := by
  cases input with
  | nil => rfl
  | cons token others =>
    rw [afterKeyword?] at absent
    split at absent
    · cases absent
    · rename_i other
      simpa [startsWith] using other

/-- A token that was required came first. -/
theorem requireToken_sound {expected : Token} {input : List Token} {rest : Shorter input}
    (read : requireToken expected input = .ok rest) : input = expected :: rest.val := by
  cases input with
  | nil => cases read
  | cons token others =>
    rw [requireToken] at read
    split at read
    · rename_i same
      cases read
      rw [same]
    · cases read

/-! ## Names and places -/

/-- A part of a name that was read came first. -/
theorem namePart_sound {input : List Token} {part : String} {rest : Shorter input}
    (read : namePart input = .ok (part, rest)) :
    ∃ token, input = token :: rest.val ∧ IsPart token part := by
  unfold namePart at read
  split at read
  · cases read
    exact ⟨_, rfl, .word _⟩
  · cases read
    exact ⟨_, rfl, .quoted _⟩
  · cases read

/-- What was read as a name spells it. -/
theorem nameParts_sound {input : List Token} {parts : List String} {rest : Shorter input}
    (read : nameParts input = .ok (parts, rest)) :
    ∃ tokens, input = tokens ++ rest.val ∧ IsName tokens parts := by
  rw [nameParts] at read
  split at read
  · cases read
  · rename_i first after _ readPart
    obtain ⟨token, start, isPart⟩ := namePart_sound readPart
    split at read
    · rename_i more bound
      split at read
      · cases read
      · rename_i others left shorter readOthers
        cases read
        obtain ⟨tokens, following, isName⟩ := nameParts_sound readOthers
        have start : input = [token, .dot] ++ more := start
        exact ⟨token :: .dot :: tokens, split_append start following, .more isPart isName⟩
    · cases read
      exact ⟨[token], start, .last isPart⟩
termination_by input.length

/-- What was read as a column is its name. -/
theorem columnName_sound {input : List Token} {name : String} {rest : Shorter input}
    (read : columnName input = .ok (name, rest)) :
    ∃ tokens, input = tokens ++ rest.val ∧ IsColumn tokens name := by
  rw [columnName] at read
  obtain ⟨⟨parts, after⟩, found, same⟩ := Checked.map_ok read
  cases same
  obtain ⟨tokens, start, isName⟩ := nameParts_sound found
  exact ⟨tokens, start, .ofName isName⟩

/-- What was read as a place for a value spells it. -/
theorem operand_sound {input : List Token} {value : Operand} {rest : Shorter input}
    (read : operand input = .ok (value, rest)) :
    ∃ tokens, input = tokens ++ rest.val ∧ IsOperand tokens value := by
  unfold operand at read
  split at read
  · cases read
    exact ⟨[_], rfl, .parameter _⟩
  · cases read
    exact ⟨[_], rfl, .binary _⟩
  · cases read
    exact ⟨[_], rfl, .integer _⟩
  · cases read
    exact ⟨[_], rfl, .text _⟩
  · split at read
    · rename_i found
      cases read
      obtain ⟨token, start, isNull⟩ := afterKeyword?_sound found
      exact ⟨[token], start, .null isNull⟩
    · rename_i absent
      obtain ⟨⟨name, after⟩, found, same⟩ := Checked.map_ok read
      cases same
      obtain ⟨tokens, start, isColumn⟩ := columnName_sound found
      have other : startsWith "NULL" tokens = false := by
        have first := startsWith_of_afterKeyword? absent
        obtain ⟨isName⟩ := isColumn
        rw [start] at first
        cases isName <;> exact first
      exact ⟨tokens, start, .column isColumn other⟩

/-! ## Conditions -/

/-- An atom that was read is a condition in parentheses or an equality. -/
theorem atom_cases {input : List Token} {condition : Condition} {rest : Shorter input}
    (read : atom input = .ok (condition, rest)) :
    (∃ inside, ∃ after : Shorter inside, inside.length < input.length ∧
      input = .leftParen :: inside ∧ disjunction inside = .ok (condition, after) ∧
      after.val = .rightParen :: rest.val) ∨
    ∃ tokens, input = tokens ++ rest.val ∧ IsCondition .atom tokens condition := by
  by_cases paren : ∃ inside, input = .leftParen :: inside
  · obtain ⟨inside, rfl⟩ := paren
    rw [atom] at read
    split at read
    · cases read
    · rename_i within after bound readInside
      split at read
      · cases read
      · rename_i left shorter closed
        cases read
        exact .inl ⟨inside, ⟨after, bound⟩, Nat.lt_succ_self _, rfl, readInside,
          requireToken_sound closed⟩
  · right
    have noParen : ∀ inside, input ≠ .leftParen :: inside := fun inside same =>
      paren ⟨inside, same⟩
    rw [atom_equal noParen] at read
    obtain ⟨⟨left, afterLeft, _⟩, readLeft, read⟩ := Checked.bind_ok read
    obtain ⟨⟨afterEquals, _⟩, readEquals, read⟩ := Checked.bind_ok read
    obtain ⟨⟨right, after, _⟩, readRight, read⟩ := Checked.bind_ok read
    cases read
    obtain ⟨first, start, isLeft⟩ := operand_sound readLeft
    obtain ⟨second, ends, isRight⟩ := operand_sound readRight
    have equals : afterLeft = [.equals] ++ afterEquals := requireToken_sound readEquals
    refine ⟨first ++ [.equals] ++ second, split_append (split_append start equals) ends, ?_⟩
    rw [List.append_assoc]
    exact .equal isLeft isRight

mutual

/-- **What was read as a condition spells it.** -/
theorem disjunction_sound {input : List Token} {condition : Condition} {rest : Shorter input}
    (read : disjunction input = .ok (condition, rest)) :
    ∃ tokens, input = tokens ++ rest.val ∧ IsCondition .alternative tokens condition := by
  rw [disjunction] at read
  split at read
  · cases read
  · rename_i first after bound readFirst
    split at read
    · cases read
    · rename_i whole left shorter readMore
      cases read
      obtain ⟨tokens, start, isFirst⟩ := conjunction_sound readFirst
      obtain ⟨others, following, isWhole⟩ :=
        moreDisjuncts_sound (.oneConjunction isFirst) readMore
      exact ⟨tokens ++ others, split_append start following, isWhole⟩
termination_by 4 * input.length + 3
decreasing_by all_goals omega

/-- What was read after a condition as further alternatives goes on the condition. -/
theorem moreDisjuncts_sound {left : Condition} {spelled : List Token}
    (isLeft : IsCondition .alternative spelled left) {input : List Token} {condition : Condition}
    {rest : NoLonger input} (read : moreDisjuncts left input = .ok (condition, rest)) :
    ∃ tokens, input = tokens ++ rest.val ∧
      IsCondition .alternative (spelled ++ tokens) condition := by
  rw [moreDisjuncts] at read
  split at read
  · cases read
    exact ⟨[], rfl, by rwa [List.append_nil]⟩
  · rename_i after bound found
    split at read
    · cases read
    · rename_i right more shorter readRight
      split at read
      · cases read
      · rename_i whole last noLonger readMore
        cases read
        obtain ⟨token, start, isOr⟩ := afterKeyword?_sound found
        obtain ⟨tokens, following, isRight⟩ := conjunction_sound readRight
        obtain ⟨others, ends, isWhole⟩ :=
          moreDisjuncts_sound (.either isLeft isOr isRight) readMore
        have start : input = [token] ++ after := start
        refine ⟨[token] ++ tokens ++ others, split_append (split_append start following) ends, ?_⟩
        rwa [List.append_assoc] at isWhole
termination_by 4 * input.length
decreasing_by all_goals omega

/-- What was read as a conjunction spells it. -/
theorem conjunction_sound {input : List Token} {condition : Condition} {rest : Shorter input}
    (read : conjunction input = .ok (condition, rest)) :
    ∃ tokens, input = tokens ++ rest.val ∧ IsCondition .conjunction tokens condition := by
  rw [conjunction] at read
  split at read
  · cases read
  · rename_i first after bound readFirst
    split at read
    · cases read
    · rename_i whole left shorter readMore
      cases read
      obtain ⟨tokens, start, isFirst⟩ := atom_sound readFirst
      obtain ⟨others, following, isWhole⟩ := moreConjuncts_sound (.oneAtom isFirst) readMore
      exact ⟨tokens ++ others, split_append start following, isWhole⟩
termination_by 4 * input.length + 2
decreasing_by all_goals omega

/-- What was read after a condition as further parts of a conjunction goes on the condition. -/
theorem moreConjuncts_sound {left : Condition} {spelled : List Token}
    (isLeft : IsCondition .conjunction spelled left) {input : List Token} {condition : Condition}
    {rest : NoLonger input} (read : moreConjuncts left input = .ok (condition, rest)) :
    ∃ tokens, input = tokens ++ rest.val ∧
      IsCondition .conjunction (spelled ++ tokens) condition := by
  rw [moreConjuncts] at read
  split at read
  · cases read
    exact ⟨[], rfl, by rwa [List.append_nil]⟩
  · rename_i after bound found
    split at read
    · cases read
    · rename_i right more shorter readRight
      split at read
      · cases read
      · rename_i whole last noLonger readMore
        cases read
        obtain ⟨token, start, isAnd⟩ := afterKeyword?_sound found
        obtain ⟨tokens, following, isRight⟩ := atom_sound readRight
        obtain ⟨others, ends, isWhole⟩ := moreConjuncts_sound (.both isLeft isAnd isRight) readMore
        have start : input = [token] ++ after := start
        refine ⟨[token] ++ tokens ++ others, split_append (split_append start following) ends, ?_⟩
        rwa [List.append_assoc] at isWhole
termination_by 4 * input.length
decreasing_by all_goals omega

/-- What was read as an atom spells it. -/
theorem atom_sound {input : List Token} {condition : Condition} {rest : Shorter input}
    (read : atom input = .ok (condition, rest)) :
    ∃ tokens, input = tokens ++ rest.val ∧ IsCondition .atom tokens condition := by
  rcases atom_cases read with ⟨inside, after, shorter, start, readInside, ends⟩ | spelled
  · obtain ⟨tokens, within, isInside⟩ := disjunction_sound readInside
    have closed : after.val = [.rightParen] ++ rest.val := ends
    have start : input = [.leftParen] ++ inside := start
    have whole := split_append start (split_append within closed)
    exact ⟨[.leftParen] ++ (tokens ++ [.rightParen]), whole, .parens isInside⟩
  · exact spelled
termination_by 4 * input.length + 1
decreasing_by omega

end

/-- A name goes on with a dot and a further part. -/
theorem IsName.append {tokens : List Token} {parts : List String} (isName : IsName tokens parts)
    {last : Token} {part : String} (isPart : IsPart last part) :
    IsName (tokens ++ [.dot, last]) (parts ++ [part]) := by
  induction isName with
  | last first => exact .more first (.last isPart)
  | more first _ inductionHypothesis => exact .more first inductionHypothesis

/-- A name has a part. -/
theorem IsName.parts_ne_nil {tokens : List Token} {parts : List String}
    (isName : IsName tokens parts) : parts ≠ [] := by
  cases isName <;> exact List.cons_ne_nil _ _

/-! ## Selected items -/

/-- The name of the transaction's context without parentheses is no item. -/
theorem selectItem_context {token : Token}
    (isContext : token.isKeyword "GET_FILESTREAM_TRANSACTION_CONTEXT" = true) {rest : List Token}
    (noParen : rest.head? ≠ some .leftParen) :
    ∃ fault, selectItem (token :: rest) = .error fault := by
  obtain ⟨fault, failed⟩ : ∃ fault, requireToken .leftParen rest = .error fault := by
    cases rest with
    | nil => exact ⟨_, rfl⟩
    | cons next others =>
      rw [requireToken, if_neg fun same => noParen (congrArg some same)]
      exact ⟨_, rfl⟩
  refine ⟨fault, ?_⟩
  cases token with
  | word letters =>
    simp only [selectItem, afterKeyword?_cons isContext, emptyParens, failed, bind, Except.bind]
  | _ => cases isContext

/-- A name that an item starts with, and that is not all there is before a parenthesis, does
not start with the name of the transaction's context. -/
theorem IsName.other_of_item {tokens : List Token} {parts : List String}
    (isName : IsName tokens parts) {rest : List Token}
    (noParen : tokens.length = 1 → rest.head? ≠ some .leftParen)
    (accepted : ∃ result, selectItem (tokens ++ rest) = .ok result) :
    startsWith "GET_FILESTREAM_TRANSACTION_CONTEXT" tokens = false := by
  obtain ⟨result, read⟩ := accepted
  apply Bool.eq_false_iff.2
  intro isContext
  cases isName with
  | @last token part isPart =>
    have keyword : token.isKeyword "GET_FILESTREAM_TRANSACTION_CONTEXT" = true := by
      simpa [startsWith] using isContext
    obtain ⟨fault, failed⟩ := selectItem_context keyword (noParen rfl)
    cases failed.symm.trans read
  | @more token part others parts isPart _ =>
    have keyword : token.isKeyword "GET_FILESTREAM_TRANSACTION_CONTEXT" = true := by
      simpa [startsWith] using isContext
    have dot : (Token.dot :: (others ++ rest)).head? ≠ some .leftParen := by simp
    obtain ⟨fault, failed⟩ := selectItem_context keyword dot
    cases failed.symm.trans read

/-- The first element of a list that was read was read, up to a comma or to the end. -/
theorem first_of_separated {α : Type} {element : (input : List Token) → Parsed α input}
    {input : List Token} (accepted : ∃ result, separated element input = .ok result) :
    ∃ result, element input = .ok result := by
  obtain ⟨result, read⟩ := accepted
  rw [separated] at read
  cases first : element input with
  | error fault =>
    rw [first] at read
    cases read
  | ok found => exact ⟨found, rfl⟩

/-- What follows the first element of a list that was read and a comma was read. -/
theorem rest_of_separated {α : Type} {element : (input : List Token) → Parsed α input}
    {input rest : List Token} {value : α} (first : Reads (element input) value (.comma :: rest))
    (accepted : ∃ result, separated element input = .ok result) :
    ∃ result, separated element rest = .ok result := by
  obtain ⟨result, read⟩ := accepted
  obtain ⟨fits, first⟩ := first
  rw [separated, first] at read
  dsimp only at read
  cases others : separated element rest with
  | error fault =>
    rw [others] at read
    cases read
  | ok found => exact ⟨found, rfl⟩

/-- A list of items that was read and goes on with names after its first item is a list of
items, the names being columns. -/
theorem IsItem.list_of_read {first : List Token} {item : SelectItem} (isItem : IsItem first item)
    {names : List (List Token)} (each : ∀ name ∈ names, ∃ parts, IsName name parts)
    {rest : List Token} (ends : EndsItem rest)
    (accepted : ∃ result,
      separated selectItem (first ++ (names.flatMap (.comma :: ·) ++ rest)) = .ok result) :
    ∃ columns : List String,
      IsList IsItem (first ++ names.flatMap (.comma :: ·)) (item :: columns.map .column) ∧
        List.Forall₂ IsColumn names columns := by
  induction names generalizing first item with
  | nil => exact ⟨[], by simpa using IsList.last isItem, .nil⟩
  | cons name others inductionHypothesis =>
    obtain ⟨parts, isName⟩ := each name (by simp)
    have readFirst :=
      isItem.read (endsItem_comma (name ++ (others.flatMap (.comma :: ·) ++ rest)))
    rw [List.flatMap_cons, List.cons_append, List.cons_append, List.append_assoc] at accepted
    have following := rest_of_separated readFirst accepted
    have noParen : (others.flatMap (Token.comma :: ·) ++ rest).head? ≠ some .leftParen := by
      cases others with
      | nil => exact fun paren => (ends _ paren).2 rfl
      | cons _ _ => exact nofun
    have other := isName.other_of_item (fun _ => noParen) (first_of_separated following)
    obtain ⟨columns, isList, areColumns⟩ := inductionHypothesis (.column (.ofName isName) other)
      (fun one member => each one (by simp [member])) following
    exact ⟨parts.getLastD "" :: columns, .more isItem isList, .cons (.ofName isName) areColumns⟩

/-! ## Statements -/

/-- A selection that was read has its parts one after another. -/
theorem selection_cases {input : List Token} {query : Select} {rest : Shorter input}
    (read : selection input = .ok (query, rest)) :
    ∃ afterItems afterFrom afterTable, Reads (separated selectItem input) query.items afterItems ∧
      (∃ bound, requireKeyword "FROM" afterItems = .ok ⟨afterFrom, bound⟩) ∧
      Reads (tableName afterFrom) query.table afterTable ∧
      Reads (whereClause afterTable) query.filter rest.val := by
  rw [selection] at read
  obtain ⟨⟨items, afterItems, itemsBound⟩, readItems, read⟩ := Checked.bind_ok read
  obtain ⟨⟨afterFrom, fromBound⟩, readFrom, read⟩ := Checked.bind_ok read
  obtain ⟨⟨table, afterTable, tableBound⟩, readTable, read⟩ := Checked.bind_ok read
  obtain ⟨⟨filter, after, bound⟩, readFilter, read⟩ := Checked.bind_ok read
  cases read
  exact ⟨afterItems, afterFrom, afterTable, ⟨itemsBound, readItems⟩, ⟨fromBound, readFrom⟩,
    ⟨tableBound, readTable⟩, ⟨bound, readFilter⟩⟩

/-- A filter that was read and starts with its keyword is a condition. -/
theorem whereClause_present {token : Token} (isWhere : token.isKeyword "WHERE" = true)
    {input rest : List Token} {filter : Option Condition}
    (reads : Reads (whereClause (token :: input)) filter rest) :
    ∃ tokens condition, filter = some condition ∧ input = tokens ++ rest ∧
      IsCondition .alternative tokens condition := by
  obtain ⟨bound, reads⟩ := reads
  rw [whereClause, afterKeyword?_cons isWhere] at reads
  dsimp only at reads
  obtain ⟨⟨condition, after, fits⟩, met, reads⟩ := Checked.bind_ok reads
  cases reads
  obtain ⟨tokens, split, spelled⟩ := disjunction_sound met
  exact ⟨tokens, condition, rfl, split, spelled⟩

/-- What is selected, if it was read: its items, its table and its filter, each as it is
spelled, with the condition of the filter after its keyword. -/
theorem selection_of_items {shown table after rest : List Token} {items : List SelectItem}
    {parts : List String} {query : Select} (isItems : IsList IsItem shown items)
    (isTable : IsName table parts) (selected : Reads (selection (shown ++ .word "FROM" ::
      (table ++ .word "WHERE" :: after))) query rest) :
    ∃ tokens condition, query = ⟨items, ".".intercalate parts, some condition⟩ ∧
      after = tokens ++ rest ∧ IsCondition .alternative tokens condition := by
  obtain ⟨bound, selected⟩ := selected
  obtain ⟨afterItems, afterFrom, afterTable, readItems, ⟨_, readFrom⟩, readTable, readFilter⟩ :=
    selection_cases selected
  have isFrom : (Token.word "FROM").isKeyword "FROM" = true := by cbv
  obtain ⟨sameItems, rfl⟩ := readItems.unique (isItems.readItems isFrom _)
  rw [requireKeyword_cons isFrom] at readFrom
  cases readFrom
  have ownTable : Reads (tableName (table ++ .word "WHERE" :: after)) _ _ :=
    isTable.readTable (by simp)
  obtain ⟨sameTable, rfl⟩ := readTable.unique ownTable
  obtain ⟨tokens, condition, sameFilter, split, spelled⟩ := whereClause_present (by cbv) readFilter
  refine ⟨tokens, condition, ?_, split, spelled⟩
  rw [← sameItems, ← sameTable, ← sameFilter]

/-- A statement that was read from a whole text has nothing but semicolons after it. -/
theorem wholeStatement_cases {input : List Token} {read : Statement}
    (whole : wholeStatement input = .ok read) :
    ∃ semicolons, Reads (statement input) read (List.replicate semicolons .semicolon) := by
  rw [wholeStatement] at whole
  obtain ⟨⟨found, rest, bound⟩, first, whole⟩ := Checked.bind_ok whole
  dsimp only at whole
  split at whole
  · rename_i ended
    cases whole
    have all : ∀ token ∈ rest, token = .semicolon := by
      simpa [List.dropWhile_eq_nil_iff] using ended
    have same : rest = List.replicate rest.length .semicolon :=
      List.eq_replicate_iff.2 ⟨rfl, all⟩
    refine ⟨rest.length, ?_⟩
    rw [← same]
    exact ⟨bound, first⟩
  · cases whole

/-- A statement that starts with `SELECT` and was read is a selection. -/
theorem statement_select {token : Token} (isSelect : token.isKeyword "SELECT" = true)
    {input rest : List Token} {read : Statement}
    (reads : Reads (statement (token :: input)) read rest) :
    ∃ query, read = .select query ∧ Reads (selection input) query rest := by
  obtain ⟨bound, reads⟩ := reads
  rw [statement, afterKeyword?_other isSelect (by decide),
    afterKeyword?_other isSelect (by decide), afterKeyword?_other isSelect (by decide),
    afterKeyword?_cons isSelect] at reads
  dsimp only at reads
  obtain ⟨⟨query, after, fits⟩, selected, same⟩ := Checked.map_ok reads
  cases same
  exact ⟨query, rfl, fits, selected⟩

/-- The question of a statement that starts with `IF` and was read was read. -/
theorem existence_of_statement {token : Token} (isIf : token.isKeyword "IF" = true)
    {input rest : List Token} {read : Statement}
    (reads : Reads (statement (token :: input)) read rest) :
    ∃ result, existence input = .ok result := by
  obtain ⟨bound, reads⟩ := reads
  rw [statement, afterKeyword?_cons isIf] at reads
  dsimp only at reads
  cases asked : existence input with
  | error fault => simp [asked] at reads
  | ok result => exact ⟨result, rfl⟩

/-- The words that a question starts with, whether it asks for a row or for none. -/
def questionWords : Bool → List Token
  | false => [.word "EXISTS"]
  | true => [.word "NOT", .word "EXISTS"]

/-- In a question that was read, a parenthesis closes after the selection. -/
theorem IsSelection.closed_of_existence {negated : Bool} {selectWord : Token}
    {tokens rest : List Token} {probe : Select}
    (isSelect : selectWord.isKeyword "SELECT" = true) (isProbe : IsSelection tokens probe)
    (ends : Ends rest)
    (accepted : ∃ result, existence
      (questionWords negated ++ .leftParen :: selectWord :: (tokens ++ rest)) = .ok result) :
    rest.head? = some .rightParen := by
  obtain ⟨result, read⟩ := accepted
  obtain ⟨_, selected⟩ := isProbe.read ends
  have isNot : (Token.word "NOT").isKeyword "NOT" = true := by cbv
  have isExists : (Token.word "EXISTS").isKeyword "EXISTS" = true := by cbv
  obtain ⟨after, closed⟩ : ∃ after, requireToken .rightParen rest = .ok after := by
    cases closed : requireToken .rightParen rest with
    | ok after => exact ⟨after, rfl⟩
    | error fault =>
      cases negated with
      | false =>
        have read : existence (.word "EXISTS" :: .leftParen :: selectWord :: (tokens ++ rest)) =
            .ok result := read
        rw [existence, afterKeyword?_other isExists (by decide)] at read
        simp [bind, Except.bind, requireKeyword_cons isExists, requireToken_cons,
          requireKeyword_cons isSelect, selected, closed] at read
      | true =>
        have read : existence (.word "NOT" :: .word "EXISTS" :: .leftParen :: selectWord ::
            (tokens ++ rest)) = .ok result := read
        rw [existence, afterKeyword?_cons isNot] at read
        simp [bind, Except.bind, requireKeyword_cons isExists, requireToken_cons,
          requireKeyword_cons isSelect, selected, closed] at read
  rw [requireToken_sound closed, List.head?_cons]

end RowPayload.Sql
