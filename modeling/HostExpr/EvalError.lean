import HostExpr.Expr
import HostExpr.Value

/-!
# Why an evaluation fails

* `ParamKind`: the kinds that a parameter of a method can be declared with;
* `EvalError`: the reasons; the first one ends the whole evaluation;
* `EvalError.message`: the words for a reason.
-/

namespace HostExpr

/-- The declared kind of a parameter. -/
inductive ParamKind where
  | any
  | boolean
  | number
  | integer
  | text
  | list
  | map
  deriving DecidableEq, Repr

/-- The words for the kind of a parameter. -/
def ParamKind.describe : ParamKind → String
  | any => "any value"
  | boolean => "boolean"
  | number => "number"
  | integer => "integer"
  | text => "string"
  | list => "list"
  | map => "map"

/-- A place where only a boolean will do. -/
inductive BooleanUse where
  | condition
  | negation
  deriving DecidableEq, Repr

/-- What a place that needs a boolean says about its need. -/
def BooleanUse.describe : BooleanUse → String
  | condition => "ternary condition must be a boolean"
  | negation => "'!' requires a boolean"

/-- Why an evaluation fails.  Host objects appear by the names of their types. -/
inductive EvalError where
  /-- A condition or the operand of a `!` is no boolean. -/
  | typeMismatch (use : BooleanUse) (got : Kind)
  /-- An operand of a product has no numeric form. -/
  | notANumber (kind : Kind) (value : String) (op : MulOp)
  /-- A member is read from a boolean, a number or a text. -/
  | notNavigable (member : String) (kind : Kind)
  /-- A key is neither a text nor a number. -/
  | invalidKey (kind : Kind)
  /-- A method is called on something that is no host object. -/
  | notCallable (method : String) (kind : Kind)
  /-- The host object does not allow the call. -/
  | methodNotAllowed (host method : String)
  /-- The host object does not declare the method. -/
  | unknownMethod (host method : String)
  /-- A parameter without default is not filled. -/
  | missingArgument (host method param : String)
  /-- There are more arguments than parameters. -/
  | tooManyArguments (host method : String) (expected got : Nat)
  /-- An argument is not of the declared kind. -/
  | wrongKind (method param : String) (expected : ParamKind) (got : Kind)
  /-- The method rejects an argument. -/
  | rejected (method reason : String)
  /-- The method rejects an argument that should be a pattern. -/
  | invalidPattern (method : String)
  /-- What was asked for is not available. -/
  | unsupported (what : String)
  deriving DecidableEq, Repr

namespace EvalError

/-- The words for an argument that a method rejects. -/
def invalidArgument (method reason : String) : String :=
  "invalid argument for " ++ method ++ "(): " ++ reason

/-- The words for an error. -/
def message : EvalError → String
  | typeMismatch use got => "type mismatch: " ++ use.describe ++ ", got " ++ got.name
  | notANumber kind value op =>
    "cannot use " ++ kind.name ++ " '" ++ value ++ "' as a number in '" ++ op.symbol ++ "'"
  | notNavigable member kind => "cannot read '" ++ member ++ "' of a " ++ kind.name
  | invalidKey kind =>
    "invalid key of type " ++ kind.name ++ "; expected a string or an integer"
  | notCallable method kind => "cannot call method '" ++ method ++ "' on a " ++ kind.name
  | methodNotAllowed host method =>
    "calling '" ++ method ++ "' on " ++ host ++ " is not allowed"
  | unknownMethod host method => host ++ " has no method '" ++ method ++ "'"
  | missingArgument host method param =>
    "missing argument '" ++ param ++ "' for " ++ host ++ "." ++ method ++ "()"
  | tooManyArguments host method expected got =>
    host ++ "." ++ method ++ "() takes at most " ++ toString expected ++ " arguments, got " ++
      toString got
  | wrongKind method param expected got =>
    invalidArgument method
      ("parameter '" ++ param ++ "' expects " ++ expected.describe ++ ", got " ++ got.name)
  | rejected method reason => invalidArgument method reason
  | invalidPattern method => invalidArgument method "not a pattern"
  | unsupported what => what ++ " are not supported"

end EvalError

end HostExpr
