/-!
# Expressions

* `Expr`: the tree of an expression, with parentheses kept;
* `Segment`: a step of a path: a name, a computed key or a method call;
* `CompareOp`, `AddOp`, `MulOp`: the operators between operands, with their symbols.

From the loosest to the tightest: the conditional, `||`, `&&`, one comparison, sums, products, and
then the operands, which are literals, paths, functions, lists, maps, negations and anything in
parentheses.
-/

namespace HostExpr

/-! ### Operators -/

/-- The operators of a comparison. -/
inductive CompareOp where
  | equal
  | notEqual
  | less
  | lessEqual
  | greater
  | greaterEqual
  deriving DecidableEq, Repr

/-- The operators of a sum. -/
inductive AddOp where
  | add
  | subtract
  deriving DecidableEq, Repr

/-- The operators of a product. -/
inductive MulOp where
  | multiply
  | divide
  | modulo
  deriving DecidableEq, Repr

/-- The symbol of a comparison. -/
def CompareOp.symbol : CompareOp → String
  | equal => "=="
  | notEqual => "!="
  | less => "<"
  | lessEqual => "<="
  | greater => ">"
  | greaterEqual => ">="

/-- The symbol of an operator of a sum. -/
def AddOp.symbol : AddOp → String
  | add => "+"
  | subtract => "-"

/-- The symbol of an operator of a product. -/
def MulOp.symbol : MulOp → String
  | multiply => "*"
  | divide => "/"
  | modulo => "%"

/-! ### Trees -/

mutual

/-- An expression.  A chain of operators holds its first operand and, in `rest`, each operator
with the operand after it; a chain of one operand is that operand itself. -/
inductive Expr where
  | cond (test yes no : Expr)
  | any (first : Expr) (rest : List Expr)
  | all (first : Expr) (rest : List Expr)
  | compare (op : CompareOp) (left right : Expr)
  | sum (first : Expr) (rest : List (AddOp × Expr))
  | product (first : Expr) (rest : List (MulOp × Expr))
  | function (params : List String) (body : Expr)
  | wrapped (inner : Expr)
  | not (operand : Expr)
  | list (items : List Expr)
  | map (entries : List (String × Expr))
  | boolean (value : Bool)
  | number (value : Float)
  | text (content : String)
  | path (segments : List Segment)

/-- A step of a path. -/
inductive Segment where
  | name (name : String)
  | key (offset : Expr)
  | call (method : String) (args : List Expr)

end

end HostExpr
