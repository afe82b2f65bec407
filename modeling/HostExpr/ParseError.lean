import HostExpr.Token

/-!
# Why a text is no expression

* `Expected`: what could have stood where another token stands;
* `Bracketed`: the constructs that end with a bracket of their own;
* `Separated`: the constructs that need a colon;
* `ParseError`: the reasons, with the token that was found and where;
* `ParseError.message`: the words for a reason.
-/

namespace HostExpr

/-- What a token was expected to be. -/
inductive Expected where
  | endOfInput
  | expression
  | identifierAfterDot
  deriving DecidableEq, Repr

/-- The words for what was expected. -/
def Expected.describe : Expected → String
  | endOfInput => "end of input"
  | expression => "an expression"
  | identifierAfterDot => "an identifier after '.'"

/-- A construct that ends with a closing bracket. -/
inductive Bracketed where
  | wrapped
  | list
  | map
  | offset
  | arguments
  deriving DecidableEq, Repr

/-- The bracket that ends a construct. -/
def Bracketed.closing : Bracketed → Token
  | wrapped | arguments => .closeParen
  | list | offset => .closeBracket
  | map => .closeBrace

/-- The words for a construct that ends with a bracket. -/
def Bracketed.describe : Bracketed → String
  | wrapped => "wrapped expression"
  | list => "array literal"
  | map => "object literal"
  | offset => "offset access"
  | arguments => "argument list"

/-- A construct with a colon between two of its parts. -/
inductive Separated where
  | conditional
  | property
  deriving DecidableEq, Repr

/-- The words for a construct with a colon. -/
def Separated.describe : Separated → String
  | conditional => "ternary expression"
  | property => "object literal property"

/-- The levels of nesting that an expression may have. -/
def maxNesting : Nat := 48

/-- Why a sequence of tokens is no expression. -/
inductive ParseError where
  | unexpected (expected : Expected) (found : Lexeme)
  | missingClosing (construct : Bracketed) (found : Lexeme)
  | missingSeparator (construct : Separated) (found : Lexeme)
  | detachedNot (position : Nat)
  | tooDeep (position : Nat)
  deriving DecidableEq

namespace ParseError

/-- The offset at which the error is reported. -/
def position : ParseError → Nat
  | unexpected _ found | missingClosing _ found | missingSeparator _ found => found.position
  | detachedNot position | tooDeep position => position

/-- What is wrong, without the offset. -/
def complaint : ParseError → String
  | unexpected expected found =>
    "expected " ++ expected.describe ++ ", found " ++ found.token.describe
  | missingClosing construct found =>
    "missing closing " ++ construct.closing.describe ++ " after " ++ construct.describe ++
      ", found " ++ found.token.describe
  | missingSeparator construct found =>
    "missing " ++ Token.colon.describe ++ " in " ++ construct.describe ++
      ", found " ++ found.token.describe
  | detachedNot _ => "'!' must be directly followed by its operand"
  | tooDeep _ => "expression nested deeper than " ++ toString maxNesting ++ " levels"

/-- The words for an error. -/
def message (e : ParseError) : String :=
  e.complaint ++ " at position " ++ toString e.position

end ParseError

end HostExpr
