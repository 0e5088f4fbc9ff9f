import RowPayload.Sql.Parser

/-!
# The grammar of statements

The grammar as relations between a row of tokens and the tree it spells, one rule a
constructor. Where the same tokens could be read in two ways the rules say which one is
meant: `NULL` is the null value and not a column, an item that starts with the name of the
transaction's context is no column, and `ELSE` belongs to the nearest condition that has
none yet.
-/

namespace RowPayload.Sql

/-- Whether a row of tokens starts with a keyword. -/
def startsWith (keyword : String) (input : List Token) : Bool :=
  input.head?.any (Token.isKeyword keyword)

/-- A token that is a part of a name. -/
inductive IsPart : Token → String → Prop where
  | word (letters : String) : IsPart (.word letters) letters
  | quoted (name : String) : IsPart (.quoted name) name

/-- Parts with dots between them. -/
inductive IsName : List Token → List String → Prop where
  | last {token : Token} {part : String} (isPart : IsPart token part) : IsName [token] [part]
  | more {token : Token} {part : String} {rest : List Token} {parts : List String}
      (isPart : IsPart token part) (others : IsName rest parts) :
      IsName (token :: .dot :: rest) (part :: parts)

/-- The last part of a name. -/
inductive IsColumn : List Token → String → Prop where
  | ofName {tokens : List Token} {parts : List String} (isName : IsName tokens parts) :
      IsColumn tokens (parts.getLastD "")

/-- A place for a value. -/
inductive IsOperand : List Token → Operand → Prop where
  | parameter (ordinal : Nat) : IsOperand [.parameter ordinal] (.parameter ordinal)
  | binary (bytes : Bytes) : IsOperand [.hex bytes] (.binary bytes)
  | integer (value : Int) : IsOperand [.number value] (.integer value)
  | text (content : String) : IsOperand [.text content] (.text content)
  | null {token : Token} (keyword : token.isKeyword "NULL" = true) : IsOperand [token] .null
  | column {tokens : List Token} {name : String} (isColumn : IsColumn tokens name)
      (other : startsWith "NULL" tokens = false) : IsOperand tokens (.column name)

/-- One or more elements with commas between them. -/
inductive IsList {α : Type} (element : List Token → α → Prop) : List Token → List α → Prop where
  | last {tokens : List Token} {value : α} (isElement : element tokens value) :
      IsList element tokens [value]
  | more {tokens rest : List Token} {value : α} {values : List α}
      (isElement : element tokens value) (others : IsList element rest values) :
      IsList element (tokens ++ .comma :: rest) (value :: values)

/-- A column and the value it is set to. -/
inductive IsAssignment : List Token → String × Operand → Prop where
  | mk {column : List Token} {name : String} {place : List Token} {value : Operand}
      (isColumn : IsColumn column name) (isOperand : IsOperand place value) :
      IsAssignment (column ++ .equals :: place) (name, value)

/-- What a selection shows of a row. -/
inductive IsItem : List Token → SelectItem → Prop where
  | one : IsItem [.number 1] .one
  | context {token : Token}
      (keyword : token.isKeyword "GET_FILESTREAM_TRANSACTION_CONTEXT" = true) :
      IsItem [token, .leftParen, .rightParen] .transactionContext
  | path {tokens : List Token} {parts : List String} (isName : IsName tokens parts)
      (other : startsWith "GET_FILESTREAM_TRANSACTION_CONTEXT" tokens = false)
      (asked : asksForPath parts (some .leftParen) = true) :
      IsItem (tokens ++ [.leftParen, .rightParen]) (.pathName (parts.dropLast.getLastD ""))
  | column {tokens : List Token} {name : String} (isColumn : IsColumn tokens name)
      (other : startsWith "GET_FILESTREAM_TRANSACTION_CONTEXT" tokens = false) :
      IsItem tokens (.column name)

/-- How loosely a condition is bound. -/
inductive Rank where
  | atom
  | conjunction
  | alternative
deriving DecidableEq

/-- A condition of a rank. `AND` binds tighter than `OR`, and both take what stands on
their left first. -/
inductive IsCondition : Rank → List Token → Condition → Prop where
  | parens {tokens : List Token} {condition : Condition}
      (inside : IsCondition .alternative tokens condition) :
      IsCondition .atom (.leftParen :: (tokens ++ [.rightParen])) condition
  | equal {left right : List Token} {leftValue rightValue : Operand}
      (isLeft : IsOperand left leftValue) (isRight : IsOperand right rightValue) :
      IsCondition .atom (left ++ .equals :: right) (.equal leftValue rightValue)
  | oneAtom {tokens : List Token} {condition : Condition}
      (single : IsCondition .atom tokens condition) : IsCondition .conjunction tokens condition
  | both {left right : List Token} {token : Token} {first second : Condition}
      (isLeft : IsCondition .conjunction left first) (keyword : token.isKeyword "AND" = true)
      (isRight : IsCondition .atom right second) :
      IsCondition .conjunction (left ++ token :: right) (.both first second)
  | oneConjunction {tokens : List Token} {condition : Condition}
      (single : IsCondition .conjunction tokens condition) :
      IsCondition .alternative tokens condition
  | either {left right : List Token} {token : Token} {first second : Condition}
      (isLeft : IsCondition .alternative left first) (keyword : token.isKeyword "OR" = true)
      (isRight : IsCondition .conjunction right second) :
      IsCondition .alternative (left ++ token :: right) (.either first second)

/-- A condition after `WHERE`, or nothing. -/
inductive IsFilter : List Token → Option Condition → Prop where
  | absent : IsFilter [] none
  | present {token : Token} {tokens : List Token} {condition : Condition}
      (keyword : token.isKeyword "WHERE" = true)
      (isCondition : IsCondition .alternative tokens condition) :
      IsFilter (token :: tokens) (some condition)

/-- A selection after its `SELECT`. -/
inductive IsSelection : List Token → Select → Prop where
  | mk {shown table filter : List Token} {token : Token} {items : List SelectItem}
      {parts : List String} {condition : Option Condition} (isItems : IsList IsItem shown items)
      (keyword : token.isKeyword "FROM" = true) (isTable : IsName table parts)
      (isFilter : IsFilter filter condition) :
      IsSelection (shown ++ token :: (table ++ filter))
        ⟨items, ".".intercalate parts, condition⟩

/-- A question whether a selection finds a row, after its `IF`. -/
inductive IsQuestion : List Token → Bool → Select → Prop where
  | found {existsWord selectWord : Token} {tokens : List Token} {probe : Select}
      (isExists : existsWord.isKeyword "EXISTS" = true)
      (isSelect : selectWord.isKeyword "SELECT" = true) (isProbe : IsSelection tokens probe) :
      IsQuestion (existsWord :: .leftParen :: selectWord :: (tokens ++ [.rightParen])) false probe
  | missing {notWord existsWord selectWord : Token} {tokens : List Token} {probe : Select}
      (isNot : notWord.isKeyword "NOT" = true) (isExists : existsWord.isKeyword "EXISTS" = true)
      (isSelect : selectWord.isKeyword "SELECT" = true) (isProbe : IsSelection tokens probe) :
      IsQuestion (notWord :: existsWord :: .leftParen :: selectWord :: (tokens ++ [.rightParen]))
        true probe

/-- Whether an `ELSE` after a statement would belong to it. -/
def Statement.isOpen : Statement → Bool
  | .conditional _ _ _ => true
  | .branch _ _ _ otherwise => otherwise.isOpen
  | _ => false

/-- A statement. -/
inductive IsStatement : List Token → Statement → Prop where
  | insert {insertWord intoWord valuesWord : Token} {table columns places : List Token}
      {parts names : List String} {operands : List Operand}
      (isInsert : insertWord.isKeyword "INSERT" = true)
      (isInto : intoWord.isKeyword "INTO" = true) (isTable : IsName table parts)
      (isColumns : IsList IsColumn columns names)
      (isValues : valuesWord.isKeyword "VALUES" = true)
      (isOperands : IsList IsOperand places operands) :
      IsStatement (insertWord :: intoWord :: (table ++ .leftParen :: (columns ++
        .rightParen :: valuesWord :: .leftParen :: (places ++ [.rightParen]))))
        (.insert (".".intercalate parts) names operands)
  | update {updateWord setWord : Token} {table changes filter : List Token} {parts : List String}
      {assignments : List (String × Operand)} {condition : Option Condition}
      (isUpdate : updateWord.isKeyword "UPDATE" = true) (isTable : IsName table parts)
      (isSet : setWord.isKeyword "SET" = true)
      (isAssignments : IsList IsAssignment changes assignments)
      (isFilter : IsFilter filter condition) :
      IsStatement (updateWord :: (table ++ setWord :: (changes ++ filter)))
        (.update (".".intercalate parts) assignments condition)
  | select {selectWord : Token} {tokens : List Token} {query : Select}
      (isSelect : selectWord.isKeyword "SELECT" = true) (isQuery : IsSelection tokens query) :
      IsStatement (selectWord :: tokens) (.select query)
  | conditional {ifWord : Token} {question tokens : List Token} {negated : Bool} {probe : Select}
      {body : Statement} (isIf : ifWord.isKeyword "IF" = true)
      (isQuestion : IsQuestion question negated probe) (isBody : IsStatement tokens body) :
      IsStatement (ifWord :: (question ++ tokens)) (.conditional negated probe body)
  | branch {ifWord elseWord : Token} {question tokens others : List Token} {negated : Bool}
      {probe : Select} {body otherwise : Statement} (isIf : ifWord.isKeyword "IF" = true)
      (isQuestion : IsQuestion question negated probe) (isBody : IsStatement tokens body)
      (closed : body.isOpen = false) (isElse : elseWord.isKeyword "ELSE" = true)
      (isOtherwise : IsStatement others otherwise) :
      IsStatement (ifWord :: (question ++ (tokens ++ elseWord :: others)))
        (.branch negated probe body otherwise)

end RowPayload.Sql
