import HostExpr.Context
import HostExpr.Parser

/-!
# Evaluation

* `Expr.eval`: the value of an expression, its paths starting at a given root;
* `Running`: what a sum has added up or joined so far;
* `CompareOp.holds`: whether a comparison holds between two values;
* `evaluate`: the value of the expression that a text spells.

A chain of `||` gives its first operand that is not null, a chain of `&&` its last operand, or null
as soon as one does not count as true; what stands after the deciding operand is not evaluated.
Neither is the rest of a path after a null, nor the branch that a conditional does not take.
-/

namespace HostExpr

/-! ### Comparisons -/

/-- Whether a comparison holds.  Between values without an order every ordering fails to hold. -/
def CompareOp.holds (op : CompareOp) (v w : Value) : Bool :=
  match op with
  | .equal => v == w
  | .notEqual => v != w
  | .less => v.order? w == some .lt
  | .lessEqual => v.order? w == some .lt || v.order? w == some .eq
  | .greater => v.order? w == some .gt
  | .greaterEqual => v.order? w == some .gt || v.order? w == some .eq

/-! ### Sums -/

/-- What a sum has come to so far: a number, or text once an operand had no numeric form. -/
inductive Running where
  | total (sum : Float)
  | joined (text : String)

namespace Running

/-- The start of a sum: a text is joined from the start, other values are added if they have a
numeric form. -/
def start (v : Value) : Running :=
  match v with
  | .text s => joined s
  | v =>
    match v.number? with
    | some x => total x
    | none => joined v.toText

/-- Joins an operand to a text.  Subtraction leaves nothing of the text nor of the operand. -/
def join (text : String) (op : AddOp) (v : Value) : Running :=
  match op with
  | .add => joined (text ++ v.toText)
  | .subtract => joined ""

/-- The sum with one more operand. -/
def step (op : AddOp) (v : Value) : Running → Running
  | total sum =>
    match v.number? with
    | some x =>
      match op with
      | .add => total (sum + x)
      | .subtract => total (sum - x)
    | none => join (Number.text sum) op v
  | joined text => join text op v

/-- The value of a sum. -/
def value : Running → Value
  | total sum => .number sum
  | joined text => .text text

end Running

/-! ### Products -/

/-- An operand of a product. -/
def Value.factor (op : MulOp) (v : Value) : Except EvalError Float :=
  match v.number? with
  | some x => .ok x
  | none => .error (.notANumber v.kind v.toText op)

/-- One operation of a product. -/
def MulOp.apply : MulOp → Float → Float → Float
  | multiply, x, y => x * y
  | divide, x, y => x / y
  | modulo, x, y => Number.remainder x y

/-! ### Expressions -/

section

variable {W : Type} (hosts : HostInterface W) (root : Value)

mutual

/-- The value of an expression. -/
def Expr.eval : Expr → Eval W Value
  | .cond test yes no => do
    match ← test.eval with
    | .boolean true => yes.eval
    | .boolean false => no.eval
    | v => throw (.typeMismatch .condition v.kind)
  | .any first rest => do evalAny (← first.eval) rest
  | .all first rest => do
    let v ← first.eval
    match rest with
    | [] => return v
    | e :: es => evalAll v (e :: es)
  | .compare op left right => do
    let v ← left.eval
    let w ← right.eval
    return .boolean (op.holds v w)
  | .sum first rest => do
    let v ← first.eval
    match rest with
    | [] => return v
    | term :: terms => return (← evalSum (.start v) (term :: terms)).value
  | .product first rest => do
    let v ← first.eval
    match rest with
    | [] => return v
    | (op, e) :: factors =>
      let x ← Eval.ofExcept (v.factor op)
      return .number (← evalProduct x ((op, e) :: factors))
  | .function _ _ => throw (.unsupported "arrow functions")
  | .wrapped inner => inner.eval
  | .not operand => do
    match ← operand.eval with
    | .boolean b => return .boolean !b
    | v => throw (.typeMismatch .negation v.kind)
  | .list items => return .list (← evalItems items)
  | .map entries => return .map (Entries.ofPairs (← evalEntries entries))
  | .boolean b => return .boolean b
  | .number x => return .number x
  | .text s => return .text s
  | .path segments => evalPath root segments

/-- A chain of `||` whose first operand has the given value. -/
def evalAny (v : Value) : List Expr → Eval W Value
  | [] => return v
  | e :: es => do
    if v.isNull then evalAny (← e.eval) es else return v

/-- A chain of `&&` whose first operand has the given value. -/
def evalAll (v : Value) : List Expr → Eval W Value
  | [] => return if v.isTruthy then v else .null
  | e :: es => do
    if v.isTruthy then evalAll (← e.eval) es else return .null

/-- The operands of a sum after the first. -/
def evalSum (running : Running) : List (AddOp × Expr) → Eval W Running
  | [] => return running
  | (op, e) :: terms => do
    let v ← e.eval
    evalSum (running.step op v) terms

/-- The operands of a product after the first. -/
def evalProduct (x : Float) : List (MulOp × Expr) → Eval W Float
  | [] => return x
  | (op, e) :: factors => do
    let v ← e.eval
    let y ← Eval.ofExcept (v.factor op)
    evalProduct (op.apply x y) factors

/-- The values of a list of expressions, from left to right. -/
def evalItems : List Expr → Eval W (List Value)
  | [] => return []
  | e :: es => do
    let v ← e.eval
    let vs ← evalItems es
    return v :: vs

/-- The values under the keys of a map, from left to right. -/
def evalEntries : List (String × Expr) → Eval W (List (String × Value))
  | [] => return []
  | (key, e) :: entries => do
    let v ← e.eval
    let vs ← evalEntries entries
    return (key, v) :: vs

/-- The value at the end of a path that has come to `v`. -/
def evalPath (v : Value) : List Segment → Eval W Value
  | [] => return v
  | segment :: segments => do
    if v.isNull then return .null
    else evalPath (← segment.eval v) segments

/-- The value one step of a path after `v`. -/
def Segment.eval (v : Value) : Segment → Eval W Value
  | .name name => v.get hosts (.name name)
  | .key offset => do
    let key ← Eval.ofExcept (Key.ofValue (← offset.eval))
    v.get hosts key
  | .call method args => do
    let vs ← evalItems args
    v.call hosts method vs

end

end

/-! ### Whole texts -/

/-- Why a text has no value. -/
inductive Failure where
  | parse (error : ParseError)
  | eval (error : EvalError)

/-- The words for a failure. -/
def Failure.message : Failure → String
  | parse e => "parse error: " ++ e.message
  | eval e => "evaluation error: " ++ e.message

/-- The value of an expression in a context, with the state afterwards. -/
def Expr.run {W : Type} (hosts : HostInterface W) (context : Context) (e : Expr) (state : W) :
    Except EvalError Value × W :=
  match e.eval hosts context.root state with
  | .ok v state => (.ok v, state)
  | .error error state => (.error error, state)

/-- The value of the expression that a text spells, with the state afterwards. -/
def evaluate {W : Type} (hosts : HostInterface W) (context : Context) (source : String)
    (state : W) : Except Failure Value × W :=
  match parse source with
  | .error e => (.error (.parse e), state)
  | .ok e =>
    let (result, state) := e.run hosts context state
    (result.mapError .eval, state)

end HostExpr
