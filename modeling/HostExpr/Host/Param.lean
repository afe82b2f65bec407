import HostExpr.EvalError

/-!
# Parameters of methods

* `Param`: a parameter with its declared kind and perhaps a default;
* `ParamKind.accepts`: whether a value is of the declared kind;
* `Param.fill`: the value of one parameter, from an argument or the default;
* `bindArguments`: the values of all parameters of a method.
-/

namespace HostExpr

/-- A parameter of a method; without a default it has to be filled. -/
structure Param where
  name : String
  kind : ParamKind
  default? : Option Value := none

/-- Whether a value is of the declared kind. -/
def ParamKind.accepts : ParamKind → Value → Bool
  | any, _ => true
  | boolean, .boolean _ => true
  | number, .number _ => true
  | integer, .number _ => true
  | text, .text _ => true
  | list, .list _ => true
  | map, .map _ => true
  | _, _ => false

/-- An argument as the parameter takes it: a number for an integer parameter loses its fraction. -/
def ParamKind.convert : ParamKind → Value → Value
  | integer, .number x => .number (Number.truncate x)
  | _, v => v

namespace Param

/-- The value of a parameter: the converted argument, or the default as it is.  It has to be of the
declared kind either way. -/
def fill (host method : String) (param : Param) (arg? : Option Value) : Except EvalError Value :=
  match arg?.map param.kind.convert <|> param.default? with
  | none => .error (.missingArgument host method param.name)
  | some v =>
    if param.kind.accepts v then .ok v
    else .error (.wrongKind method param.name param.kind v.kind)

/-- The values of parameters, the arguments being given from the left. -/
def fillAll (host method : String) : List Param → List Value → Except EvalError (List Value)
  | [], _ => .ok []
  | param :: params, args => do
    let v ← param.fill host method args.head?
    let vs ← fillAll host method params args.tail
    return v :: vs

end Param

/-- The values of the parameters of a method for given arguments, one for each parameter. -/
def bindArguments (host method : String) (params : List Param) (args : List Value) :
    Except EvalError (List Value) :=
  if params.length < args.length then
    .error (.tooManyArguments host method params.length args.length)
  else Param.fillAll host method params args

end HostExpr
