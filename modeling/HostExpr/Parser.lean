import HostExpr.Expr
import HostExpr.Lexer
import HostExpr.ParseError

/-!
# Parsing expressions

The grammar, where `[x]` is optional, `{x}` is repeated and `list x` stands for
`[x {"," x} [","]]`:

```text
expression  = disjunction ["?" expression ":" expression]
disjunction = conjunction {"||" conjunction}
conjunction = comparison {"&&" comparison}
comparison  = sum [("==" | "!=" | "<" | "<=" | ">" | ">=") sum]
sum         = product {("+" | "-") product}
product     = operand {("*" | "/" | "%") operand}
operand     = (name | "(" list name ")") "=>" expression
            | "(" expression ")" | "!" operand
            | "[" list expression "]" | "{" list (name ":" expression) "}"
            | boolean | number | text | step {"." step | "[" expression "]"}
step        = name ["(" list expression ")"]
```

The rules are written over `sub` and `bang`, which parse an expression and the operand of a `!`
one level further down; `Parse.expression` and `Parse.operand` tie them together by recursion on
the levels that are left.

* `Parse.expression limit`: an expression of at most `limit` levels of nesting;
* `Parse.input limit`: an expression up to the end of the tokens;
* `Parser`: tokens that are left, from which expressions can be read one after another;
* `parse`: the expression that a whole text spells.
-/

namespace HostExpr

/-- A computation that reads tokens.  An error leaves the tokens that were not yet read. -/
abbrev Parse := EStateM ParseError (List Lexeme)

namespace Parse

variable {α ω : Type}

/-! ### Single tokens -/

/-- The first of the tokens; without tokens, the end of the text. -/
def first : List Lexeme → Lexeme
  | [] => ⟨.eof, 0⟩
  | lexeme :: _ => lexeme

/-- The tokens after the first one.  The end of the text stays. -/
def afterFirst : List Lexeme → List Lexeme
  | [] => []
  | lexeme :: rest => if lexeme.token = .eof then lexeme :: rest else rest

/-- The token that is read next. -/
def peek : Parse Lexeme :=
  return first (← get)

/-- Reads a token. -/
def advance : Parse Unit :=
  modify afterFirst

/-- Reads the given token if it is the next one. -/
def accept (token : Token) : Parse Bool := do
  if (← peek).token = token then
    advance
    return true
  else
    return false

/-- Fails at the next token. -/
def unexpected (expected : Expected) : Parse α := do
  throw (.unexpected expected (← peek))

/-- Reads the bracket that ends a construct. -/
def close (construct : Bracketed) : Parse Unit := do
  unless ← accept construct.closing do
    throw (.missingClosing construct (← peek))

/-- Reads the colon of a construct. -/
def separator (construct : Separated) : Parse Unit := do
  unless ← accept .colon do
    throw (.missingSeparator construct (← peek))

/-! ### Repetition -/

/-- Repeats a step until it finds nothing, at most the given number of times. -/
def upTo : Nat → Parse (Option α) → Parse (List α)
  | 0, _ => pure []
  | n + 1, step => do
    match ← step with
    | none => pure []
    | some x => return x :: (← upTo n step)

/-- Repeats a step until it finds nothing.  A step that finds something reads a token, so it
cannot be repeated more often than there are tokens. -/
def many (step : Parse (Option α)) : Parse (List α) := do
  upTo (← get).length step

/-- A list of items with commas between them and perhaps one after the last. -/
def listOf (item : Parse (Option α)) : Parse (List α) := do
  match ← item with
  | none => pure []
  | some x =>
    return x :: (← many do if ← accept .comma then item else pure none)

/-- An operand, then operators each with an operand after it. -/
def chain (operator : Token → Option ω) (operand : Parse α) : Parse (α × List (ω × α)) := do
  let x ← operand
  let rest ← many do
    match operator (← peek).token with
    | none => pure none
    | some op =>
      advance
      return some (op, ← operand)
  return (x, rest)

/-! ### Operators -/

/-- The operator `||`. -/
def orOp? : Token → Option Unit
  | .or => some ()
  | _ => none

/-- The operator `&&`. -/
def andOp? : Token → Option Unit
  | .and => some ()
  | _ => none

/-- The comparison that a token stands for. -/
def compareOp? : Token → Option CompareOp
  | .equal => some .equal
  | .notEqual => some .notEqual
  | .less => some .less
  | .lessEqual => some .lessEqual
  | .greater => some .greater
  | .greaterEqual => some .greaterEqual
  | _ => none

/-- The operator of a sum that a token stands for. -/
def addOp? : Token → Option AddOp
  | .plus => some .add
  | .minus => some .subtract
  | _ => none

/-- The operator of a product that a token stands for. -/
def mulOp? : Token → Option MulOp
  | .star => some .multiply
  | .slash => some .divide
  | .percent => some .modulo
  | _ => none

/-! ### Heads of functions -/

/-- Names with commas between them and perhaps one after the last, and the tokens after them. -/
def names : List Lexeme → List String × List Lexeme
  | ⟨.identifier name, _⟩ :: ⟨.comma, _⟩ :: rest =>
    let (more, rest) := names rest
    (name :: more, rest)
  | ⟨.identifier name, _⟩ :: rest => ([name], rest)
  | rest => ([], rest)

/-- The parameters of a function if its head, up to the arrow, stands at the front of the tokens,
and the tokens after the arrow. -/
def functionHead? : List Lexeme → Option (List String × List Lexeme)
  | ⟨.openParen, _⟩ :: rest =>
    match names rest with
    | (params, ⟨.closeParen, _⟩ :: ⟨.arrow, _⟩ :: rest) => some (params, rest)
    | _ => none
  | ⟨.identifier param, _⟩ :: ⟨.arrow, _⟩ :: rest => some ([param], rest)
  | _ => none

/-! ### Paths -/

/-- Whether an expression can start with a token. -/
def startsExpression : Token → Bool
  | .number _ | .text _ | .boolean _ | .identifier _ => true
  | .openParen | .openBracket | .openBrace | .bang => true
  | _ => false

/-- An expression, if one starts here. -/
def expression? (sub : Parse Expr) : Parse (Option Expr) := do
  if startsExpression (← peek).token then some <$> sub else pure none

/-- A named step of a path; a parenthesis after the name makes it a call. -/
def step (sub : Parse Expr) : Parse Segment := do
  match (← peek).token with
  | .identifier name =>
    advance
    if ← accept .openParen then
      let args ← listOf (expression? sub)
      close .arguments
      return .call name args
    else
      return .name name
  | _ => unexpected .identifierAfterDot

/-- A further step of a path, if one follows. -/
def step? (sub : Parse Expr) : Parse (Option Segment) := do
  if ← accept .dot then
    some <$> step sub
  else if ← accept .openBracket then
    let offset ← sub
    close .offset
    return some (.key offset)
  else
    return none

/-- A path. -/
def path (sub : Parse Expr) : Parse Expr := do
  let head ← step sub
  return .path (head :: (← many (step? sub)))

/-! ### Operands -/

/-- An entry of a map, if one starts here. -/
def property? (sub : Parse Expr) : Parse (Option (String × Expr)) := do
  match (← peek).token with
  | .text key | .identifier key =>
    advance
    separator .property
    return some (key, ← sub)
  | _ => return none

/-- An operand that is not a function. -/
def plainOperand (sub bang : Parse Expr) : Parse Expr := do
  let lexeme ← peek
  match lexeme.token with
  | .openParen =>
    advance
    let inner ← sub
    close .wrapped
    return .wrapped inner
  | .bang =>
    advance
    if (← peek).position = lexeme.position + 1 then
      return .not (← bang)
    else
      throw (.detachedNot lexeme.position)
  | .openBracket =>
    advance
    let items ← listOf (expression? sub)
    close .list
    return .list items
  | .openBrace =>
    advance
    let entries ← listOf (property? sub)
    close .map
    return .map entries
  | .boolean value =>
    advance
    return .boolean value
  | .number value =>
    advance
    return .number value
  | .text content =>
    advance
    return .text content
  | .identifier _ => path sub
  | _ => unexpected .expression

/-- An operand.  A function is recognised by its whole head, up to the arrow. -/
def simple (sub bang : Parse Expr) : Parse Expr := do
  match functionHead? (← get) with
  | some (params, rest) =>
    set rest
    return .function params (← sub)
  | none => plainOperand sub bang

/-! ### Chains -/

/-- A product, or its only operand. -/
def product (sub bang : Parse Expr) : Parse Expr := do
  match ← chain mulOp? (simple sub bang) with
  | (x, []) => return x
  | (x, rest) => return .product x rest

/-- A sum, or its only operand. -/
def sum (sub bang : Parse Expr) : Parse Expr := do
  match ← chain addOp? (product sub bang) with
  | (x, []) => return x
  | (x, rest) => return .sum x rest

/-- A comparison, or its only operand. -/
def comparison (sub bang : Parse Expr) : Parse Expr := do
  let left ← sum sub bang
  match compareOp? (← peek).token with
  | none => return left
  | some op =>
    advance
    return .compare op left (← sum sub bang)

/-- A chain of `&&`, or its only operand. -/
def conjunction (sub bang : Parse Expr) : Parse Expr := do
  match ← chain andOp? (comparison sub bang) with
  | (x, []) => return x
  | (x, rest) => return .all x (rest.map Prod.snd)

/-- A chain of `||`, or its only operand. -/
def disjunction (sub bang : Parse Expr) : Parse Expr := do
  match ← chain orOp? (conjunction sub bang) with
  | (x, []) => return x
  | (x, rest) => return .any x (rest.map Prod.snd)

/-- A conditional, or the chain that stands alone. -/
def conditional (sub bang : Parse Expr) : Parse Expr := do
  let test ← disjunction sub bang
  if ← accept .question then
    let yes ← sub
    separator .conditional
    return .cond test yes (← sub)
  else
    return test

/-! ### Nesting -/

/-- Fails at the next token because no level is left. -/
def tooDeep : Parse α := do
  throw (.tooDeep (← peek).position)

mutual

/-- An expression with at most the given number of levels. -/
def expression : Nat → List Lexeme → EStateM.Result ParseError (List Lexeme) Expr
  | 0, tokens => tooDeep tokens
  | levels + 1, tokens => conditional (expression levels) (operand levels) tokens

/-- The operand of a `!` with at most the given number of levels. -/
def operand : Nat → List Lexeme → EStateM.Result ParseError (List Lexeme) Expr
  | 0, tokens => tooDeep tokens
  | levels + 1, tokens => simple (expression levels) (operand levels) tokens

end

/-- An expression of at most `limit` levels, and nothing after it. -/
def input (limit : Nat) : Parse Expr := do
  let e ← expression limit
  if (← peek).token = .eof then return e else unexpected .endOfInput

end Parse

/-! ### Reading on and on -/

/-- The tokens that are left to read. -/
structure Parser where
  rest : List Lexeme

namespace Parser

/-- A parser of the given tokens.  If they do not end with the end of the text, it is added one
place after the last token. -/
def ofTokens (tokens : List Lexeme) : Parser :=
  match tokens.getLast? with
  | none => ⟨[⟨.eof, 0⟩]⟩
  | some last => if last.token = .eof then ⟨tokens⟩ else ⟨tokens ++ [⟨.eof, last.position + 1⟩]⟩

/-- A parser of a text. -/
def ofSource (source : String) : Parser :=
  ofTokens (tokenize source)

/-- Runs a reading and keeps what is left, also after an error. -/
def run {α : Type} (reading : Parse α) (parser : Parser) : Except ParseError α × Parser :=
  match reading parser.rest with
  | .ok x rest => (.ok x, ⟨rest⟩)
  | .error e rest => (.error e, ⟨rest⟩)

/-- Reads an expression. -/
def expression (parser : Parser) : Except ParseError Expr × Parser :=
  parser.run (Parse.expression maxNesting)

/-- Reads an expression that all remaining tokens belong to. -/
def input (parser : Parser) : Except ParseError Expr × Parser :=
  parser.run (Parse.input maxNesting)

end Parser

/-- The expression that a text spells. -/
def parse (source : String) : Except ParseError Expr :=
  (Parser.ofSource source).input.1

end HostExpr
