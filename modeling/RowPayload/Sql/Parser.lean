import RowPayload.Sql.Lexer
import RowPayload.Sql.Statement
import RowPayload.Rest

/-!
# From tokens to statements

The grammar, in which keywords are words in any letter case:

* a statement is `IF [NOT] EXISTS ( SELECT selection ) statement [ELSE statement]`,
  `INSERT INTO name ( name , … ) VALUES ( operand , … )`,
  `UPDATE name SET name = operand , … [WHERE condition]` or `SELECT selection`;
* a selection is `item , … FROM name [WHERE condition]`;
* an item is `1`, `GET_FILESTREAM_TRANSACTION_CONTEXT ( )`, `name . PathName ( )` or a
  name;
* a condition is an alternative of conjunctions of atoms, and an atom is a condition in
  parentheses or `operand = operand`;
* an operand is a placeholder, a literal, `NULL` or a name;
* a name is words and quoted names with dots between them.

Of the name of a column only the last part is kept. Semicolons may follow the
statement, and nothing else. The first token that does not fit is reported.
-/

namespace RowPayload.Sql

/-- What a reader of tokens returns: a tree and the tokens after it, or a fault. -/
abbrev Parsed (α : Type) (input : List Token) := Except SyntaxFault (α × Shorter input)

/-- Whether a token is a keyword. -/
def Token.isKeyword (keyword : String) : Token → Bool
  | .word letters => Text.sameLetters letters keyword
  | _ => false

/-- The tokens after a keyword, if it comes first. -/
def afterKeyword? (keyword : String) : (input : List Token) → Option (Shorter input)
  | [] => none
  | token :: rest =>
    if token.isKeyword keyword then some ⟨rest, Nat.lt_succ_self _⟩ else none

/-- The tokens after a keyword that has to come first. -/
def requireKeyword (keyword : String) (input : List Token) :
    Except SyntaxFault (Shorter input) :=
  match afterKeyword? keyword input with
  | some rest => .ok rest
  | none => .error (.expectedKeyword keyword input.head?)

/-- The tokens after a token that has to come first. -/
def requireToken (expected : Token) : (input : List Token) → Except SyntaxFault (Shorter input)
  | [] => .error (.expectedToken expected none)
  | token :: rest =>
    if token = expected then .ok ⟨rest, Nat.lt_succ_self _⟩
    else .error (.expectedToken expected (some token))

/-- One part of a name. -/
def namePart : (input : List Token) → Parsed String input
  | .word letters :: rest => .ok (letters, ⟨rest, Nat.lt_succ_self _⟩)
  | .quoted name :: rest => .ok (name, ⟨rest, Nat.lt_succ_self _⟩)
  | other => .error (.expectedName other.head?)

/-- The parts of a name. -/
def nameParts (input : List Token) : Parsed (List String) input :=
  match namePart input with
  | .error fault => .error fault
  | .ok (first, ⟨rest, restBound⟩) =>
    match rest, restBound with
    | .dot :: more, (bound : more.length + 1 < input.length) =>
      match nameParts more with
      | .error fault => .error fault
      | .ok (others, ⟨after, _⟩) => .ok (first :: others, ⟨after, by omega⟩)
    | rest, bound => .ok ([first], ⟨rest, bound⟩)
termination_by input.length

/-- The last part of a name. -/
def columnName (input : List Token) : Parsed String input :=
  (nameParts input).map fun (parts, rest) => (parts.getLastD "", rest)

/-- The parts of a name with dots between them. -/
def tableName (input : List Token) : Parsed String input :=
  (nameParts input).map fun (parts, rest) => (".".intercalate parts, rest)

/-- A place for a value. -/
def operand : (input : List Token) → Parsed Operand input
  | .parameter ordinal :: rest => .ok (.parameter ordinal, ⟨rest, Nat.lt_succ_self _⟩)
  | .hex bytes :: rest => .ok (.binary bytes, ⟨rest, Nat.lt_succ_self _⟩)
  | .number value :: rest => .ok (.integer value, ⟨rest, Nat.lt_succ_self _⟩)
  | .text content :: rest => .ok (.text content, ⟨rest, Nat.lt_succ_self _⟩)
  | input =>
    match afterKeyword? "NULL" input with
    | some rest => .ok (.null, rest)
    | none => (columnName input).map fun (name, rest) => (.column name, rest)

/-- One or more elements with commas between them. -/
def separated {α : Type} (element : (input : List Token) → Parsed α input)
    (input : List Token) : Parsed (List α) input :=
  match element input with
  | .error fault => .error fault
  | .ok (first, ⟨rest, restBound⟩) =>
    match rest, restBound with
    | .comma :: more, (bound : more.length + 1 < input.length) =>
      match separated element more with
      | .error fault => .error fault
      | .ok (others, ⟨after, _⟩) => .ok (first :: others, ⟨after, by omega⟩)
    | rest, bound => .ok ([first], ⟨rest, bound⟩)
termination_by input.length

/-- A column and the value it is set to. -/
def assignment (input : List Token) : Parsed (String × Operand) input := do
  let (column, ⟨afterColumn, _⟩) ← columnName input
  let ⟨afterEquals, _⟩ ← requireToken .equals afterColumn
  let (value, ⟨after, _⟩) ← operand afterEquals
  return ((column, value), ⟨after, by omega⟩)

/-- The tokens after a pair of parentheses with nothing between them. -/
def emptyParens (input : List Token) : Except SyntaxFault (Shorter input) := do
  let ⟨afterLeft, _⟩ ← requireToken .leftParen input
  let ⟨after, _⟩ ← requireToken .rightParen afterLeft
  return ⟨after, by omega⟩

/-- Whether the parts of a name and the token after them ask for a path locator. -/
def asksForPath (parts : List String) (following : Option Token) : Bool :=
  parts.length > 1 && Text.sameLetters (parts.getLastD "") "PathName" &&
    following == some .leftParen

/-- What a selection shows of a row. -/
def selectItem (input : List Token) : Parsed SelectItem input :=
  match input with
  | .number 1 :: rest => .ok (.one, ⟨rest, Nat.lt_succ_self _⟩)
  | input =>
    match afterKeyword? "GET_FILESTREAM_TRANSACTION_CONTEXT" input with
    | some ⟨rest, _⟩ => do
      let ⟨after, _⟩ ← emptyParens rest
      return (.transactionContext, ⟨after, by omega⟩)
    | none => do
      let (parts, ⟨rest, _⟩) ← nameParts input
      if asksForPath parts rest.head? then
        let ⟨after, _⟩ ← emptyParens rest
        return (.pathName (parts.dropLast.getLastD ""), ⟨after, by omega⟩)
      else return (.column (parts.getLastD ""), ⟨rest, by omega⟩)

mutual

/-- An alternative of conjunctions. -/
def disjunction (input : List Token) : Parsed Condition input :=
  match conjunction input with
  | .error fault => .error fault
  | .ok (first, ⟨rest, _⟩) =>
    match moreDisjuncts first rest with
    | .error fault => .error fault
    | .ok (condition, ⟨after, _⟩) => .ok (condition, ⟨after, by omega⟩)
termination_by 4 * input.length + 3
decreasing_by all_goals omega

/-- The conjunctions that follow a condition as alternatives. -/
def moreDisjuncts (left : Condition) (input : List Token) :
    Except SyntaxFault (Condition × NoLonger input) :=
  match afterKeyword? "OR" input with
  | none => .ok (left, ⟨input, Nat.le_refl _⟩)
  | some ⟨rest, _⟩ =>
    match conjunction rest with
    | .error fault => .error fault
    | .ok (right, ⟨more, _⟩) =>
      match moreDisjuncts (.either left right) more with
      | .error fault => .error fault
      | .ok (condition, ⟨after, _⟩) => .ok (condition, ⟨after, by omega⟩)
termination_by 4 * input.length
decreasing_by all_goals omega

/-- A conjunction of atoms. -/
def conjunction (input : List Token) : Parsed Condition input :=
  match atom input with
  | .error fault => .error fault
  | .ok (first, ⟨rest, _⟩) =>
    match moreConjuncts first rest with
    | .error fault => .error fault
    | .ok (condition, ⟨after, _⟩) => .ok (condition, ⟨after, by omega⟩)
termination_by 4 * input.length + 2
decreasing_by all_goals omega

/-- The atoms that follow a condition in a conjunction. -/
def moreConjuncts (left : Condition) (input : List Token) :
    Except SyntaxFault (Condition × NoLonger input) :=
  match afterKeyword? "AND" input with
  | none => .ok (left, ⟨input, Nat.le_refl _⟩)
  | some ⟨rest, _⟩ =>
    match atom rest with
    | .error fault => .error fault
    | .ok (right, ⟨more, _⟩) =>
      match moreConjuncts (.both left right) more with
      | .error fault => .error fault
      | .ok (condition, ⟨after, _⟩) => .ok (condition, ⟨after, by omega⟩)
termination_by 4 * input.length
decreasing_by all_goals omega

/-- A condition in parentheses, or an equality of two operands. -/
def atom (input : List Token) : Parsed Condition input :=
  match input with
  | .leftParen :: inside =>
    match disjunction inside with
    | .error fault => .error fault
    | .ok (condition, ⟨rest, _⟩) =>
      match requireToken .rightParen rest with
      | .error fault => .error fault
      | .ok ⟨after, _⟩ =>
        .ok (condition, ⟨after, by simp only [List.length_cons]; omega⟩)
  | input => do
    let (left, ⟨afterLeft, _⟩) ← operand input
    let ⟨afterEquals, _⟩ ← requireToken .equals afterLeft
    let (right, ⟨after, _⟩) ← operand afterEquals
    return (.equal left right, ⟨after, by omega⟩)
termination_by 4 * input.length + 1
decreasing_by
  simp only [List.length_cons]
  omega

end

/-- The condition after `WHERE`, if that comes first. -/
def whereClause (input : List Token) :
    Except SyntaxFault (Option Condition × NoLonger input) :=
  match afterKeyword? "WHERE" input with
  | none => .ok (none, ⟨input, Nat.le_refl _⟩)
  | some ⟨rest, _⟩ => do
    let (condition, ⟨after, _⟩) ← disjunction rest
    return (some condition, ⟨after, by omega⟩)

/-- A selection after `SELECT`. -/
def selection (input : List Token) : Parsed Select input := do
  let (items, ⟨afterItems, _⟩) ← separated selectItem input
  let ⟨afterFrom, _⟩ ← requireKeyword "FROM" afterItems
  let (table, ⟨afterTable, _⟩) ← tableName afterFrom
  let (filter, ⟨after, _⟩) ← whereClause afterTable
  return (⟨items, table, filter⟩, ⟨after, by omega⟩)

/-- An insertion after `INSERT`. -/
def insertion (input : List Token) : Parsed Statement input := do
  let ⟨afterInto, _⟩ ← requireKeyword "INTO" input
  let (table, ⟨afterTable, _⟩) ← tableName afterInto
  let ⟨afterOpen, _⟩ ← requireToken .leftParen afterTable
  let (columns, ⟨afterColumns, _⟩) ← separated columnName afterOpen
  let ⟨afterClose, _⟩ ← requireToken .rightParen afterColumns
  let ⟨afterValues, _⟩ ← requireKeyword "VALUES" afterClose
  let ⟨afterOpen, _⟩ ← requireToken .leftParen afterValues
  let (values, ⟨afterOperands, _⟩) ← separated operand afterOpen
  let ⟨after, _⟩ ← requireToken .rightParen afterOperands
  return (.insert table columns values, ⟨after, by omega⟩)

/-- An update after `UPDATE`. -/
def updating (input : List Token) : Parsed Statement input := do
  let (table, ⟨afterTable, _⟩) ← tableName input
  let ⟨afterSet, _⟩ ← requireKeyword "SET" afterTable
  let (assignments, ⟨afterAssignments, _⟩) ← separated assignment afterSet
  let (filter, ⟨after, _⟩) ← whereClause afterAssignments
  return (.update table assignments filter, ⟨after, by omega⟩)

/-- The condition of a conditional after `IF`: whether it is negated, and its probe. -/
def existence (input : List Token) : Parsed (Bool × Select) input := do
  let (negated, ⟨afterNot, _⟩) : Bool × NoLonger input :=
    match afterKeyword? "NOT" input with
    | some ⟨rest, bound⟩ => (true, ⟨rest, Nat.le_of_lt bound⟩)
    | none => (false, ⟨input, Nat.le_refl _⟩)
  let ⟨afterExists, _⟩ ← requireKeyword "EXISTS" afterNot
  let ⟨afterOpen, _⟩ ← requireToken .leftParen afterExists
  let ⟨afterSelect, _⟩ ← requireKeyword "SELECT" afterOpen
  let (probe, ⟨afterProbe, _⟩) ← selection afterSelect
  let ⟨after, _⟩ ← requireToken .rightParen afterProbe
  return ((negated, probe), ⟨after, by omega⟩)

/-- A statement. -/
def statement (input : List Token) : Parsed Statement input :=
  match afterKeyword? "IF" input with
  | some ⟨afterIf, _⟩ =>
    match existence afterIf with
    | .error fault => .error fault
    | .ok ((negated, probe), ⟨afterProbe, _⟩) =>
      match statement afterProbe with
      | .error fault => .error fault
      | .ok (body, ⟨afterBody, _⟩) =>
        match afterKeyword? "ELSE" afterBody with
        | none => .ok (.conditional negated probe body, ⟨afterBody, by omega⟩)
        | some ⟨afterElse, _⟩ =>
          match statement afterElse with
          | .error fault => .error fault
          | .ok (otherwise, ⟨after, _⟩) =>
            .ok (.branch negated probe body otherwise, ⟨after, by omega⟩)
  | none =>
    match afterKeyword? "INSERT" input with
    | some ⟨rest, _⟩ =>
      (insertion rest).map fun (read, ⟨after, _⟩) => (read, ⟨after, by omega⟩)
    | none =>
      match afterKeyword? "UPDATE" input with
      | some ⟨rest, _⟩ =>
        (updating rest).map fun (read, ⟨after, _⟩) => (read, ⟨after, by omega⟩)
      | none =>
        match afterKeyword? "SELECT" input with
        | some ⟨rest, _⟩ =>
          (selection rest).map fun (query, ⟨after, _⟩) => (.select query, ⟨after, by omega⟩)
        | none => .error (.unsupportedStatement input.head?)
termination_by input.length

/-- A statement that may be followed by semicolons and nothing else. -/
def wholeStatement (input : List Token) : Except SyntaxFault Statement := do
  let (read, ⟨rest, _⟩) ← statement input
  match rest.dropWhile (· == .semicolon) with
  | [] => return read
  | token :: _ => throw (.trailing token)

/-- The statement a text spells out. -/
def parse (sql : String) : Except SyntaxFault Statement := tokenize sql >>= wholeStatement

end RowPayload.Sql
