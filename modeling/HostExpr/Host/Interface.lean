import HostExpr.Host.Param

/-!
# Host objects as expressions see them

* `HostInterface`: the four questions that an evaluation asks a host object, over a state in which
  all host objects live;
* `Eval`: a computation that may change this state and may fail, and keeps the state when it fails;
* `HostInterface.call`: a call of a method, behind the gate of its object.
-/

namespace HostExpr

/-- A computation over the state of the host objects.  What a failed computation has done to the
state stays done. -/
abbrev Eval (W : Type) := EStateM EvalError W

/-- What can be done with the host objects of a state. -/
structure HostInterface (W : Type) where
  /-- Whether an object allows calls of a method, in a state. -/
  allows : W → HostRef → String → Bool
  /-- The value of a member, if the object declares it. -/
  member? : W → HostRef → String → Option Value
  /-- The parameters of a method, if the object declares it. -/
  params? : W → HostRef → String → Option (List Param)
  /-- Runs a method on values that are already bound to its parameters. -/
  invoke : HostRef → String → List Value → Eval W Value

variable {W : Type}

/-- The result of a check, as a computation that leaves the state alone. -/
def Eval.ofExcept {α : Type} : Except EvalError α → Eval W α
  | .ok x => pure x
  | .error e => throw e

/-- Calls a method of a host object.  The object has to allow it in the current state, then the
method has to be declared, then the arguments have to fit its parameters; only then it runs. -/
def HostInterface.call (hosts : HostInterface W) (ref : HostRef) (method : String)
    (args : List Value) : Eval W Value := do
  let state ← get
  if hosts.allows state ref method then
    match hosts.params? state ref method with
    | none => throw (.unknownMethod ref.typeName method)
    | some params =>
      let bound ← Eval.ofExcept (bindArguments ref.typeName method params args)
      hosts.invoke ref method bound
  else
    throw (.methodNotAllowed ref.typeName method)

end HostExpr
