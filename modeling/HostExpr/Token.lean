import HostExpr.Number.Text

/-!
# Tokens

* `Token`: the words, literals and symbols of an expression, and the end of the text;
* `Token.endsOperand`: whether an operand can end with a token;
* `Token.describe`: the words for a token in a message;
* `Lexeme`: a token with the offset of its first character.
-/

namespace HostExpr

/-- A token of an expression. -/
inductive Token where
  | number (value : Float)
  | text (content : String)
  | boolean (value : Bool)
  | identifier (name : String)
  | arrow
  | equal
  | notEqual
  | less
  | lessEqual
  | greater
  | greaterEqual
  | plus
  | minus
  | star
  | slash
  | percent
  | and
  | or
  | bang
  | openBrace
  | closeBrace
  | openParen
  | closeParen
  | openBracket
  | closeBracket
  | question
  | colon
  | comma
  | dot
  | eof
  deriving DecidableEq

namespace Token

/-- Whether an operand can end with this token.  After such a token a minus sign is an operator. -/
def endsOperand : Token → Bool
  | number _ | text _ | boolean _ | identifier _ | closeParen | closeBracket | closeBrace => true
  | _ => false

/-- A number in a message: positional, and the values that are not finite in their short
spelling. -/
def describeNumber (x : Float) : String :=
  if x.isNaN then "NaN"
  else if x.isInf then (if x < 0.0 then "-inf" else "inf")
  else String.ofList (Number.plain x)

/-- The words for a token in a message. -/
def describe : Token → String
  | number x => "number " ++ describeNumber x
  | text s => "string '" ++ s ++ "'"
  | boolean true => "'true'"
  | boolean false => "'false'"
  | identifier name => "identifier '" ++ name ++ "'"
  | arrow => "'=>'"
  | equal => "'=='"
  | notEqual => "'!='"
  | less => "'<'"
  | lessEqual => "'<='"
  | greater => "'>'"
  | greaterEqual => "'>='"
  | plus => "'+'"
  | minus => "'-'"
  | star => "'*'"
  | slash => "'/'"
  | percent => "'%'"
  | and => "'&&'"
  | or => "'||'"
  | bang => "'!'"
  | openBrace => "'\x7b'"
  | closeBrace => "'\x7d'"
  | openParen => "'('"
  | closeParen => "')'"
  | openBracket => "'['"
  | closeBracket => "']'"
  | question => "'?'"
  | colon => "':'"
  | comma => "','"
  | dot => "'.'"
  | eof => "end of input"

end Token

/-- A token and the offset of its first character in the text. -/
structure Lexeme where
  token : Token
  position : Nat
  deriving DecidableEq

end HostExpr
