import RowPayload.Text.Quoted
import RowPayload.Value

/-!
# SQL tokens

The lexical units of a statement. `Token.describe` is how a token is shown in an
error message.
-/

namespace RowPayload.Sql

/-- A lexical unit of a statement. -/
inductive Token where
  | word (letters : String)
  | quoted (name : String)
  | parameter (ordinal : Nat)
  | hex (bytes : Bytes)
  | number (value : Int)
  | text (content : String)
  | leftParen
  | rightParen
  | comma
  | dot
  | equals
  | semicolon
deriving DecidableEq

namespace Token

/-- The token as an error message shows it. -/
def describe : Token → String
  | .word letters => "Word(" ++ Text.quoted letters ++ ")"
  | .quoted name => "Quoted(" ++ Text.quoted name ++ ")"
  | .parameter ordinal => s!"Param({ordinal})"
  | .hex bytes => "Hex(" ++ Value.describeBytes bytes ++ ")"
  | .number value => s!"Number({value})"
  | .text content => "Text(" ++ Text.quoted content ++ ")"
  | .leftParen => "LParen"
  | .rightParen => "RParen"
  | .comma => "Comma"
  | .dot => "Dot"
  | .equals => "Eq"
  | .semicolon => "Semicolon"

/-- A token that may be missing, as an error message shows it. -/
def describeFound : Option Token → String
  | none => "None"
  | some token => "Some(" ++ token.describe ++ ")"

end Token

/-- What makes a text no statement, or a statement meaningless. -/
inductive SyntaxFault where
  | unclosedName
  | unknownPlaceholder
  | badPlaceholder (digits : String)
  | unclosedText
  | oddHex
  | badNumber (text : String)
  | unexpectedCharacter (c : Char)
  | expectedToken (expected : Token) (found : Option Token)
  | expectedKeyword (keyword : String) (found : Option Token)
  | expectedName (found : Option Token)
  | unsupportedStatement (found : Option Token)
  | trailing (token : Token)
  | columnNotAllowed (column : String)
  | noPayloadColumn (column : String)
deriving DecidableEq

/-- The wording of a syntax fault. -/
def SyntaxFault.message : SyntaxFault → String
  | .unclosedName => "unterminated quoted identifier"
  | .unknownPlaceholder => "only @pN placeholders are supported"
  | .badPlaceholder digits => s!"bad placeholder near @p{digits}"
  | .unclosedText => "unterminated string literal"
  | .oddHex => "binary literal has an odd number of digits"
  | .badNumber text => s!"bad number '{text}'"
  | .unexpectedCharacter c => s!"unexpected character '{c}'"
  | .expectedToken expected found =>
    s!"expected {expected.describe}, found {Token.describeFound found}"
  | .expectedKeyword keyword found => s!"expected {keyword}, found {Token.describeFound found}"
  | .expectedName found => s!"expected an identifier, found {Token.describeFound found}"
  | .unsupportedStatement found => s!"unsupported statement at {Token.describeFound found}"
  | .trailing token => s!"unexpected trailing {token.describe}"
  | .columnNotAllowed column => s!"column {column} is not allowed here"
  | .noPayloadColumn column =>
    s!"PathName() is only valid on FILESTREAM columns, not {column}"

end RowPayload.Sql
