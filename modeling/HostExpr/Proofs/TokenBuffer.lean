import HostExpr.Parser

/-!
# Reading from a buffer of tokens

The grammar read from a buffer that is kept as it is: what changes is the place of the token that is
read next, and a counter of the levels that have been entered and not yet left.  Alternatives are tried
one after another, and one that does not apply is undone by going back to the place where it began; an
error leaves the place where it is.

* `Buffer`: the tokens, the place and the counter, with `Buffer.ofTokens`;
* `Reading`: a computation that reads from a buffer;
* `Reading.backtrack`, `Reading.firstOf`: alternatives;
* `Reading.nested`: a reading one level further down;
* `Reading.expression`, `Reading.input`: an expression, and an expression up to the end of the tokens;
* `Call`, `Buffer.answer`: what a parser may be asked for, again and again.

`Parser` answers the same calls with the tokens that are left and with the levels that are left, where
nothing has to be undone.
-/

namespace HostExpr

/-- A buffer of tokens, the place of the one that is read next, and the levels that are entered. -/
structure Buffer where
  tokens : List Lexeme
  cursor : Nat
  depth : Nat

namespace Buffer

/-- A buffer of the given tokens.  If they do not end with the end of the text, it is added. -/
def ofTokens (tokens : List Lexeme) : Buffer :=
  ⟨(Parser.ofTokens tokens).rest, 0, 0⟩

/-- The token that is read next.  Past the last token it is the last one again. -/
def current (b : Buffer) : Lexeme :=
  b.tokens.getD (min b.cursor (b.tokens.length - 1)) ⟨.eof, 0⟩

/-- The buffer after its next token has been read.  The end of the text is never passed. -/
def next (b : Buffer) : Buffer :=
  if b.current.token = .eof then b else { b with cursor := b.cursor + 1 }

/-- The tokens from the next one on. -/
def rest (b : Buffer) : List Lexeme :=
  b.tokens.drop b.cursor

end Buffer

/-- A computation that reads from a buffer.  An error leaves the buffer as it was when it occurred. -/
abbrev Reading := EStateM ParseError Buffer

namespace Reading

variable {α ω : Type}

/-! ### Single tokens -/

/-- The token that is read next. -/
def peek : Reading Lexeme :=
  return (← get).current

/-- Reads a token. -/
def advance : Reading Unit :=
  modify Buffer.next

/-- Reads the given token if it is the next one. -/
def accept (token : Token) : Reading Bool := do
  if (← peek).token = token then
    advance
    return true
  else
    return false

/-- Fails at the next token. -/
def unexpected (expected : Expected) : Reading α := do
  throw (.unexpected expected (← peek))

/-- Reads the bracket that ends a construct. -/
def close (construct : Bracketed) : Reading Unit := do
  unless ← accept construct.closing do
    throw (.missingClosing construct (← peek))

/-- Reads the colon of a construct. -/
def separator (construct : Separated) : Reading Unit := do
  unless ← accept .colon do
    throw (.missingSeparator construct (← peek))

/-- Reads a name, if one stands here. -/
def name? : Reading (Option String) := do
  match (← peek).token with
  | .identifier name =>
    advance
    return some name
  | _ => return none

/-! ### Alternatives, repetition and levels -/

/-- Tries a reading, and goes back to where it began if it does not apply. -/
def backtrack (attempt : Reading (Option α)) : Reading (Option α) := do
  let start := (← get).cursor
  match ← attempt with
  | some x => return some x
  | none =>
    modify fun b => { b with cursor := start }
    return none

/-- The first of some readings that applies. -/
def firstOf : List (Reading (Option α)) → Reading (Option α)
  | [] => pure none
  | attempt :: attempts => do
    match ← backtrack attempt with
    | some x => return some x
    | none => firstOf attempts

/-- What follows a token, if this is the next one. -/
def after (token : Token) (reading : Reading α) : Reading (Option α) := do
  if ← accept token then some <$> reading else pure none

/-- Repeats a step until it finds nothing, at most the given number of times. -/
def upTo : Nat → Reading (Option α) → Reading (List α)
  | 0, _ => pure []
  | n + 1, step => do
    match ← step with
    | none => pure []
    | some x => return x :: (← upTo n step)

/-- Repeats a step until it finds nothing.  A step that finds something reads a token. -/
def many (step : Reading (Option α)) : Reading (List α) := do
  upTo (← get).rest.length step

/-- A list of items with commas between them and perhaps one after the last. -/
def listOf (item : Reading (Option α)) : Reading (List α) := do
  match ← backtrack item with
  | none => pure []
  | some x =>
    return x :: (← many do if ← accept .comma then backtrack item else pure none)

/-- An operand, then operators each with an operand after it. -/
def chain (operator : Token → Option ω) (operand : Reading α) : Reading (α × List (ω × α)) := do
  let x ← operand
  let rest ← many do
    match operator (← peek).token with
    | none => pure none
    | some op =>
      advance
      return some (op, ← operand)
  return (x, rest)

/-- Fails at the next token because no level is left. -/
def tooDeep : Reading α := do
  throw (.tooDeep (← peek).position)

/-- Enters a level, and leaves it again whether the reading fails or not. -/
def nested (reading : Reading α) : Reading α := fun b =>
  if maxNesting ≤ b.depth then tooDeep b
  else
    match reading { b with depth := b.depth + 1 } with
    | .ok x b => .ok x { b with depth := b.depth - 1 }
    | .error e b => .error e { b with depth := b.depth - 1 }

/-! ### Paths -/

section

variable (sub bang : Reading Expr)

/-- An expression, if one starts here. -/
def expression? : Reading (Option Expr) := do
  if Parse.startsExpression (← peek).token then some <$> sub else pure none

/-- A named step of a path; a parenthesis after the name makes it a call. -/
def step : Reading Segment := do
  match (← peek).token with
  | .identifier name =>
    advance
    if ← accept .openParen then
      let args ← listOf (expression? sub)
      close .arguments
      return .call name args
    else
      return .name name
  | _ => unexpected .identifierAfterDot

/-- A further step of a path, if one follows. -/
def step? : Reading (Option Segment) := do
  if ← accept .dot then
    some <$> step sub
  else if ← accept .openBracket then
    let offset ← sub
    close .offset
    return some (.key offset)
  else
    return none

/-- A path. -/
def path : Reading Expr := do
  let head ← step sub
  return .path (head :: (← many (step? sub)))

/-! ### Operands -/

/-- The arrow of a function and its body, if the arrow stands here. -/
def body? (params : List String) : Reading (Option Expr) :=
  after .arrow do return .function params (← sub)

/-- A function, if its whole head stands here. -/
def function? : Reading (Option Expr) := do
  if ← accept .openParen then
    let params ← listOf name?
    if ← accept .closeParen then body? sub params else return none
  else
    match ← name? with
    | some param => body? sub [param]
    | none => return none

/-- An expression in parentheses. -/
def wrapped? : Reading (Option Expr) :=
  after .openParen do
    let inner ← sub
    close .wrapped
    return .wrapped inner

/-- A `!` and its operand, which has to stand directly after it. -/
def not? : Reading (Option Expr) := do
  let lexeme ← peek
  after .bang do
    if (← peek).position = lexeme.position + 1 then
      return .not (← bang)
    else
      throw (.detachedNot lexeme.position)

/-- A list. -/
def list? : Reading (Option Expr) :=
  after .openBracket do
    let items ← listOf (expression? sub)
    close .list
    return .list items

/-- An entry of a map, if one starts here. -/
def property? : Reading (Option (String × Expr)) := do
  match (← peek).token with
  | .text key | .identifier key =>
    advance
    separator .property
    return some (key, ← sub)
  | _ => return none

/-- A map. -/
def map? : Reading (Option Expr) :=
  after .openBrace do
    let entries ← listOf (property? sub)
    close .map
    return .map entries

/-- A literal or a path. -/
def term? : Reading (Option Expr) := do
  match (← peek).token with
  | .boolean value =>
    advance
    return some (.boolean value)
  | .number value =>
    advance
    return some (.number value)
  | .text content =>
    advance
    return some (.text content)
  | .identifier _ => some <$> path sub
  | _ => return none

/-- An operand: the first alternative that applies. -/
def simple : Reading Expr := do
  match ← firstOf [function? sub, wrapped? sub, not? bang, list? sub, map? sub, term? sub] with
  | some e => return e
  | none => unexpected .expression

/-! ### Chains -/

/-- A product, or its only operand. -/
def product : Reading Expr := do
  match ← chain Parse.mulOp? (simple sub bang) with
  | (x, []) => return x
  | (x, rest) => return .product x rest

/-- A sum, or its only operand. -/
def sum : Reading Expr := do
  match ← chain Parse.addOp? (product sub bang) with
  | (x, []) => return x
  | (x, rest) => return .sum x rest

/-- A comparison, or its only operand. -/
def comparison : Reading Expr := do
  let left ← sum sub bang
  match Parse.compareOp? (← peek).token with
  | none => return left
  | some op =>
    advance
    return .compare op left (← sum sub bang)

/-- A chain of `&&`, or its only operand. -/
def conjunction : Reading Expr := do
  match ← chain Parse.andOp? (comparison sub bang) with
  | (x, []) => return x
  | (x, rest) => return .all x (rest.map Prod.snd)

/-- A chain of `||`, or its only operand. -/
def disjunction : Reading Expr := do
  match ← chain Parse.orOp? (conjunction sub bang) with
  | (x, []) => return x
  | (x, rest) => return .any x (rest.map Prod.snd)

/-- A conditional, or the chain that stands alone. -/
def conditional : Reading Expr := do
  let test ← disjunction sub bang
  if ← accept .question then
    let yes ← sub
    separator .conditional
    return .cond test yes (← sub)
  else
    return test

end

/-! ### Expressions -/

mutual

/-- An expression, for a buffer in which at most the given number of levels can be entered. -/
def expressionWithin : Nat → Buffer → EStateM.Result ParseError Buffer Expr
  | 0, b => tooDeep b
  | levels + 1, b => nested (conditional (expressionWithin levels) (operandWithin levels)) b

/-- The operand of a `!`, for a buffer in which at most the given number of levels can be entered. -/
def operandWithin : Nat → Buffer → EStateM.Result ParseError Buffer Expr
  | 0, b => tooDeep b
  | levels + 1, b => nested (simple (expressionWithin levels) (operandWithin levels)) b

end

/-- An expression.  The counter of the buffer decides which levels can still be entered. -/
def expression : Reading Expr := fun b =>
  expressionWithin (maxNesting - b.depth) b

/-- The operand of a `!`. -/
def operand : Reading Expr := fun b =>
  operandWithin (maxNesting - b.depth) b

/-- An expression, and nothing after it. -/
def input : Reading Expr := do
  let e ← expression
  if (← peek).token = .eof then return e else unexpected .endOfInput

end Reading

/-! ### Calls -/

/-- What a parser can be asked for: an expression, or one that all remaining tokens belong to. -/
inductive Call where
  | expression
  | input
  deriving DecidableEq, Repr

namespace Buffer

/-- Runs a reading and keeps the buffer as it leaves it, also after an error. -/
def run {α : Type} (reading : Reading α) (b : Buffer) : Except ParseError α × Buffer :=
  match reading b with
  | .ok x b => (.ok x, b)
  | .error e b => (.error e, b)

/-- The answer to a call, and the buffer afterwards. -/
def answer (b : Buffer) : Call → Except ParseError Expr × Buffer
  | .expression => b.run Reading.expression
  | .input => b.run Reading.input

/-- The buffer after some calls. -/
def afterCalls (b : Buffer) (calls : List Call) : Buffer :=
  calls.foldl (fun b call => (b.answer call).2) b

end Buffer

namespace Parser

/-- The answer to a call, and what is left afterwards. -/
def answer (parser : Parser) : Call → Except ParseError Expr × Parser
  | .expression => parser.expression
  | .input => parser.input

/-- What is left after some calls. -/
def afterCalls (parser : Parser) (calls : List Call) : Parser :=
  calls.foldl (fun parser call => (parser.answer call).2) parser

end Parser

end HostExpr
