import RowPayload.Proofs.Sql.Soundness

/-!
# Which statements are accepted

What a reader of selections or statements takes off the front of its input spells the tree
it returns. Together with the readers taking all that is spelled, a row of tokens is accepted
as a statement exactly if it spells that statement, with any number of semicolons after it.
-/

namespace RowPayload.Sql

/-- What is taken off in three steps is taken off one after the other. -/
theorem split_between {input first middle second after third rest : List Token}
    (start : input = first ++ middle) (following : middle = second ++ after)
    (ending : after = third ++ rest) : input = first ++ (second ++ third) ++ rest := by
  rw [start, following, ending, List.append_assoc, List.append_assoc]

/-- A keyword that was required came first. -/
theorem requireKeyword_sound {keyword : String} {input : List Token} {rest : Shorter input}
    (read : requireKeyword keyword input = .ok rest) :
    ∃ token, input = token :: rest.val ∧ token.isKeyword keyword = true := by
  unfold requireKeyword at read
  split at read
  · rename_i found
    cases read
    exact afterKeyword?_sound found
  · cases read

/-- What was read as the name of a table is its parts with dots between them. -/
theorem tableName_sound {input : List Token} {name : String} {rest : Shorter input}
    (read : tableName input = .ok (name, rest)) :
    ∃ tokens parts, input = tokens ++ rest.val ∧ IsName tokens parts ∧
      name = ".".intercalate parts := by
  rw [tableName] at read
  obtain ⟨⟨parts, after⟩, found, same⟩ := Checked.map_ok read
  cases same
  obtain ⟨tokens, start, isName⟩ := nameParts_sound found
  exact ⟨tokens, parts, start, isName, rfl⟩

/-! ## Lists, assignments and items -/

/-- What was read as a list spells it, if what is read as an element spells that. -/
theorem separated_sound {α : Type} {element : List Token → α → Prop}
    {reader : (input : List Token) → Parsed α input}
    (sound : ∀ {input : List Token} {value : α} {rest : Shorter input},
      reader input = .ok (value, rest) →
      ∃ tokens, input = tokens ++ rest.val ∧ element tokens value)
    {input : List Token} {values : List α} {rest : Shorter input}
    (read : separated reader input = .ok (values, rest)) :
    ∃ tokens, input = tokens ++ rest.val ∧ IsList element tokens values := by
  rw [separated] at read
  split at read
  · cases read
  · rename_i first after _ readFirst
    obtain ⟨tokens, start, isFirst⟩ := sound readFirst
    split at read
    · rename_i more bound
      split at read
      · cases read
      · rename_i others left shorter readOthers
        cases read
        obtain ⟨spelled, following, isList⟩ := separated_sound sound readOthers
        have comma : Token.comma :: more = [.comma] ++ more := rfl
        exact ⟨tokens ++ .comma :: spelled, split_between start comma following,
          .more isFirst isList⟩
    · cases read
      exact ⟨tokens, start, .last isFirst⟩
termination_by input.length

/-- What was read as an assignment spells it. -/
theorem assignment_sound {input : List Token} {change : String × Operand} {rest : Shorter input}
    (read : assignment input = .ok (change, rest)) :
    ∃ tokens, input = tokens ++ rest.val ∧ IsAssignment tokens change := by
  rw [assignment] at read
  obtain ⟨⟨column, afterColumn, _⟩, readColumn, read⟩ := Checked.bind_ok read
  obtain ⟨⟨afterEquals, _⟩, readEquals, read⟩ := Checked.bind_ok read
  obtain ⟨⟨value, after, _⟩, readValue, read⟩ := Checked.bind_ok read
  cases read
  obtain ⟨name, start, isColumn⟩ := columnName_sound readColumn
  obtain ⟨place, following, isOperand⟩ := operand_sound readValue
  have equals : afterColumn = [.equals] ++ afterEquals := requireToken_sound readEquals
  exact ⟨name ++ .equals :: place, split_between start equals following, .mk isColumn isOperand⟩

/-- Parentheses with nothing between them that were taken came first. -/
theorem emptyParens_sound {input : List Token} {rest : Shorter input}
    (read : emptyParens input = .ok rest) : input = .leftParen :: .rightParen :: rest.val := by
  rw [emptyParens] at read
  obtain ⟨⟨afterLeft, _⟩, left, read⟩ := Checked.bind_ok read
  obtain ⟨⟨after, _⟩, right, read⟩ := Checked.bind_ok read
  cases read
  have leftStart : input = [.leftParen] ++ afterLeft := requireToken_sound left
  have rightStart : afterLeft = [.rightParen] ++ after := requireToken_sound right
  exact split_append leftStart rightStart

/-- A name before a parenthesis asks for a path locator if it has a part before `PathName`. -/
theorem asksForPath_iff {parts : List String} {following : Option Token} :
    asksForPath parts following = true ↔ 1 < parts.length ∧
      Text.sameLetters (parts.getLastD "") "PathName" = true ∧ following = some .leftParen := by
  simp [asksForPath, and_assoc]

/-- What was read as an item spells it. -/
theorem selectItem_sound {input : List Token} {item : SelectItem} {rest : Shorter input}
    (read : selectItem input = .ok (item, rest)) :
    ∃ tokens, input = tokens ++ rest.val ∧ IsItem tokens item := by
  unfold selectItem at read
  split at read
  · cases read
    exact ⟨[_], rfl, .one⟩
  · split at read
    · rename_i afterWord _ found
      obtain ⟨⟨after, _⟩, parens, read⟩ := Checked.bind_ok read
      cases read
      obtain ⟨token, start, isContext⟩ := afterKeyword?_sound found
      have start : input = [token] ++ afterWord := start
      have closed : afterWord = [.leftParen, .rightParen] ++ after := emptyParens_sound parens
      exact ⟨_, split_append start closed, .context isContext⟩
    · rename_i absent
      obtain ⟨⟨parts, after, _⟩, readParts, read⟩ := Checked.bind_ok read
      obtain ⟨tokens, start, isName⟩ := nameParts_sound readParts
      have other : startsWith "GET_FILESTREAM_TRANSACTION_CONTEXT" tokens = false := by
        have first := startsWith_of_afterKeyword? absent
        rw [start] at first
        cases isName <;> exact first
      dsimp only at read
      split at read
      · rename_i asked
        obtain ⟨⟨left, _⟩, parens, read⟩ := Checked.bind_ok read
        cases read
        have spelled : IsItem (tokens ++ [.leftParen, .rightParen]) _ :=
          .path isName other (asksForPath_iff.2
            ⟨(asksForPath_iff.1 asked).1, (asksForPath_iff.1 asked).2.1, rfl⟩)
        exact ⟨_, split_append start (emptyParens_sound parens), spelled⟩
      · cases read
        exact ⟨tokens, start, .column (.ofName isName) other⟩

/-! ## Filters and selections -/

/-- What was read as a filter spells it. -/
theorem whereClause_sound {input : List Token} {filter : Option Condition} {rest : NoLonger input}
    (read : whereClause input = .ok (filter, rest)) :
    ∃ tokens, input = tokens ++ rest.val ∧ IsFilter tokens filter := by
  unfold whereClause at read
  split at read
  · cases read
    exact ⟨[], rfl, .absent⟩
  · rename_i afterWhere _ found
    obtain ⟨⟨condition, after, _⟩, met, read⟩ := Checked.bind_ok read
    cases read
    obtain ⟨token, start, isWhere⟩ := afterKeyword?_sound found
    obtain ⟨tokens, following, isCondition⟩ := disjunction_sound met
    have start : input = [token] ++ afterWhere := start
    exact ⟨token :: tokens, split_append start following, .present isWhere isCondition⟩

/-- What was read as a selection spells it. -/
theorem selection_sound {input : List Token} {query : Select} {rest : Shorter input}
    (read : selection input = .ok (query, rest)) :
    ∃ tokens, input = tokens ++ rest.val ∧ IsSelection tokens query := by
  obtain ⟨afterItems, afterFrom, afterTable, ⟨_, readItems⟩, ⟨_, readFrom⟩, ⟨_, readTable⟩,
    ⟨_, readFilter⟩⟩ := selection_cases read
  obtain ⟨shown, start, isItems⟩ := separated_sound selectItem_sound readItems
  obtain ⟨token, afterShown, isFrom⟩ := requireKeyword_sound readFrom
  obtain ⟨table, parts, named, isTable, sameTable⟩ := tableName_sound readTable
  obtain ⟨filter, filtered, isFilter⟩ := whereClause_sound readFilter
  have fromStart : afterItems = [token] ++ afterFrom := afterShown
  have split := split_between start fromStart (split_append named filtered)
  refine ⟨shown ++ token :: (table ++ filter), split, ?_⟩
  have spelled := IsSelection.mk isItems isFrom isTable isFilter
  rwa [← sameTable] at spelled

/-! ## Statements -/

/-- What was read as an insertion after its keyword spells it. -/
theorem insertion_sound {insertWord : Token} (isInsert : insertWord.isKeyword "INSERT" = true)
    {input : List Token} {read : Statement} {rest : Shorter input}
    (accepted : insertion input = .ok (read, rest)) :
    ∃ tokens, input = tokens ++ rest.val ∧ IsStatement (insertWord :: tokens) read ∧
      read.isOpen = false := by
  rw [insertion] at accepted
  obtain ⟨⟨afterInto, _⟩, readInto, accepted⟩ := Checked.bind_ok accepted
  obtain ⟨⟨name, afterTable, _⟩, readTable, accepted⟩ := Checked.bind_ok accepted
  obtain ⟨⟨afterOpen, _⟩, readOpen, accepted⟩ := Checked.bind_ok accepted
  obtain ⟨⟨names, afterColumns, _⟩, readColumns, accepted⟩ := Checked.bind_ok accepted
  obtain ⟨⟨afterClose, _⟩, readClose, accepted⟩ := Checked.bind_ok accepted
  obtain ⟨⟨afterValues, _⟩, readValues, accepted⟩ := Checked.bind_ok accepted
  obtain ⟨⟨afterParen, _⟩, readParen, accepted⟩ := Checked.bind_ok accepted
  obtain ⟨⟨operands, afterOperands, _⟩, readOperands, accepted⟩ := Checked.bind_ok accepted
  obtain ⟨⟨after, _⟩, readEnd, accepted⟩ := Checked.bind_ok accepted
  cases accepted
  obtain ⟨intoWord, intoStart, isInto⟩ := requireKeyword_sound readInto
  obtain ⟨table, parts, tableStart, isTable, rfl⟩ := tableName_sound readTable
  obtain ⟨columns, columnsStart, isColumns⟩ := separated_sound columnName_sound readColumns
  obtain ⟨valuesWord, valuesStart, isValues⟩ := requireKeyword_sound readValues
  obtain ⟨places, placesStart, isOperands⟩ := separated_sound operand_sound readOperands
  have openStart := requireToken_sound readOpen
  have closeStart := requireToken_sound readClose
  have parenStart := requireToken_sound readParen
  have endStart := requireToken_sound readEnd
  refine ⟨intoWord :: (table ++ .leftParen :: (columns ++ .rightParen :: valuesWord ::
    .leftParen :: (places ++ [.rightParen]))), ?_,
    .insert isInsert isInto isTable isColumns isValues isOperands, rfl⟩
  dsimp only at *
  rw [intoStart, tableStart, openStart, columnsStart, closeStart, valuesStart, parenStart,
    placesStart, endStart]
  simp

/-- What was read as an update after its keyword spells it. -/
theorem updating_sound {updateWord : Token} (isUpdate : updateWord.isKeyword "UPDATE" = true)
    {input : List Token} {read : Statement} {rest : Shorter input}
    (accepted : updating input = .ok (read, rest)) :
    ∃ tokens, input = tokens ++ rest.val ∧ IsStatement (updateWord :: tokens) read ∧
      read.isOpen = false := by
  rw [updating] at accepted
  obtain ⟨⟨name, afterTable, _⟩, readTable, accepted⟩ := Checked.bind_ok accepted
  obtain ⟨⟨afterSet, _⟩, readSet, accepted⟩ := Checked.bind_ok accepted
  obtain ⟨⟨assignments, afterAssignments, _⟩, readAssignments, accepted⟩ := Checked.bind_ok accepted
  obtain ⟨⟨filter, after, _⟩, readFilter, accepted⟩ := Checked.bind_ok accepted
  cases accepted
  obtain ⟨table, parts, tableStart, isTable, rfl⟩ := tableName_sound readTable
  obtain ⟨setWord, setStart, isSet⟩ := requireKeyword_sound readSet
  obtain ⟨changes, changesStart, isAssignments⟩ := separated_sound assignment_sound readAssignments
  obtain ⟨condition, filterStart, isFilter⟩ := whereClause_sound readFilter
  refine ⟨table ++ setWord :: (changes ++ condition), ?_,
    .update isUpdate isTable isSet isAssignments isFilter, rfl⟩
  dsimp only at *
  rw [tableStart, setStart, changesStart, filterStart]
  simp

/-- What was read as a question after `IF` spells it. -/
theorem existence_sound {input : List Token} {negated : Bool} {probe : Select}
    {rest : Shorter input} (read : existence input = .ok ((negated, probe), rest)) :
    ∃ tokens, input = tokens ++ rest.val ∧ IsQuestion tokens negated probe := by
  unfold existence at read
  split at read
  rename_i asked afterNot _ negation
  obtain ⟨⟨afterExists, _⟩, readExists, read⟩ := Checked.bind_ok read
  obtain ⟨⟨afterOpen, _⟩, readOpen, read⟩ := Checked.bind_ok read
  obtain ⟨⟨afterSelect, _⟩, readSelect, read⟩ := Checked.bind_ok read
  obtain ⟨⟨query, afterProbe, _⟩, readProbe, read⟩ := Checked.bind_ok read
  obtain ⟨⟨after, _⟩, readClose, read⟩ := Checked.bind_ok read
  cases read
  obtain ⟨existsWord, existsStart, isExists⟩ := requireKeyword_sound readExists
  obtain ⟨selectWord, selectStart, isSelect⟩ := requireKeyword_sound readSelect
  obtain ⟨tokens, probeStart, isProbe⟩ := selection_sound readProbe
  have openStart := requireToken_sound readOpen
  have closeStart := requireToken_sound readClose
  dsimp only at *
  have start : afterNot =
      existsWord :: .leftParen :: selectWord :: (tokens ++ [.rightParen]) ++ after := by
    rw [existsStart, openStart, selectStart, probeStart, closeStart]
    simp
  split at negation
  · rename_i found
    cases negation
    obtain ⟨notWord, notStart, isNot⟩ := afterKeyword?_sound found
    have notStart : input = [notWord] ++ afterNot := notStart
    exact ⟨_, split_append notStart start, .missing isNot isExists isSelect isProbe⟩
  · cases negation
    exact ⟨_, start, .found isExists isSelect isProbe⟩

/-- **What was read as a statement spells it.** If an `ELSE` would have gone on the statement,
none followed it. -/
theorem statement_sound {input : List Token} {read : Statement} {rest : Shorter input}
    (accepted : statement input = .ok (read, rest)) :
    ∃ tokens, input = tokens ++ rest.val ∧ IsStatement tokens read ∧
      (read.isOpen = true → startsWith "ELSE" rest.val = false) := by
  rw [statement] at accepted
  split at accepted
  · rename_i afterIf _ found
    obtain ⟨ifWord, ifStart, isIf⟩ := afterKeyword?_sound found
    have ifStart : input = [ifWord] ++ afterIf := ifStart
    split at accepted
    · cases accepted
    · rename_i negated probe afterProbe _ readQuestion
      obtain ⟨question, questionStart, isQuestion⟩ := existence_sound readQuestion
      split at accepted
      · cases accepted
      · rename_i body afterBody _ readBody
        obtain ⟨tokens, bodyStart, isBody, closed⟩ := statement_sound readBody
        have start := split_between ifStart questionStart bodyStart
        split at accepted
        · rename_i absent
          cases accepted
          exact ⟨ifWord :: (question ++ tokens), start, .conditional isIf isQuestion isBody,
            fun _ => startsWith_of_afterKeyword? absent⟩
        · rename_i afterElse _ found
          obtain ⟨elseWord, elseStart, isElse⟩ := afterKeyword?_sound found
          split at accepted
          · cases accepted
          · rename_i otherwise after _ readOtherwise
            cases accepted
            obtain ⟨others, otherwiseStart, isOtherwise, noElse⟩ := statement_sound readOtherwise
            have bodyClosed : body.isOpen = false := by
              by_contra opened
              have other := closed (by simpa using opened)
              dsimp only at other elseStart
              rw [elseStart] at other
              simp [startsWith, isElse] at other
            have elseStart : afterBody = [elseWord] ++ afterElse := elseStart
            have spelled :=
              IsStatement.branch isIf isQuestion isBody bodyClosed isElse isOtherwise
            refine ⟨_, ?_, spelled, noElse⟩
            have whole := split_append start (split_append elseStart otherwiseStart)
            simpa using whole
  · split at accepted
    · rename_i afterWord _ found
      obtain ⟨⟨statement, after, _⟩, readInsertion, same⟩ := Checked.map_ok accepted
      cases same
      obtain ⟨insertWord, start, isInsert⟩ := afterKeyword?_sound found
      obtain ⟨tokens, following, spelled, closed⟩ := insertion_sound isInsert readInsertion
      have start : input = [insertWord] ++ afterWord := start
      exact ⟨_, split_append start following, spelled, fun opened => by simp [closed] at opened⟩
    · split at accepted
      · rename_i afterWord _ found
        obtain ⟨⟨statement, after, _⟩, readUpdate, same⟩ := Checked.map_ok accepted
        cases same
        obtain ⟨updateWord, start, isUpdate⟩ := afterKeyword?_sound found
        obtain ⟨tokens, following, spelled, closed⟩ := updating_sound isUpdate readUpdate
        have start : input = [updateWord] ++ afterWord := start
        exact ⟨_, split_append start following, spelled, fun opened => by simp [closed] at opened⟩
      · split at accepted
        · rename_i afterWord _ found
          obtain ⟨⟨query, after, _⟩, readSelection, same⟩ := Checked.map_ok accepted
          cases same
          obtain ⟨selectWord, start, isSelect⟩ := afterKeyword?_sound found
          obtain ⟨tokens, following, spelled⟩ := selection_sound readSelection
          have start : input = [selectWord] ++ afterWord := start
          exact ⟨_, split_append start following, .select isSelect spelled,
            fun opened => by simp [Statement.isOpen] at opened⟩
        · cases accepted
termination_by input.length

/-- **A row of tokens is accepted as a statement** exactly if it spells the statement and ends
with any number of semicolons. -/
theorem wholeStatement_iff {input : List Token} {read : Statement} :
    wholeStatement input = .ok read ↔ ∃ tokens semicolons,
      input = tokens ++ List.replicate semicolons .semicolon ∧ IsStatement tokens read := by
  constructor
  · intro whole
    obtain ⟨semicolons, _, accepted⟩ := wholeStatement_cases whole
    obtain ⟨tokens, start, spelled, _⟩ := statement_sound accepted
    exact ⟨tokens, semicolons, start, spelled⟩
  · rintro ⟨tokens, semicolons, rfl, spelled⟩
    exact spelled.readWhole semicolons

end RowPayload.Sql
