import HostExpr.Host.Interface
import HostExpr.Value.Text

/-!
# Contexts and keys

* `Context`: the value at which every path of an expression starts;
* `Context.bind`, `Context.ofPairs`: contexts with named values;
* `Key`: what a member or an item is looked up by, and `Key.ofValue`, the key that a value is;
* `Value.lookup`: the value under a key;
* `Value.call`: a method call on a value.
-/

namespace HostExpr

/-- The value at which paths start. -/
structure Context where
  root : Value

namespace Context

/-- A context without any names. -/
def empty : Context := ⟨.map []⟩

/-- Binds a name.  A root that is no map gives way to a map of this name only. -/
def bind (name : String) (v : Value) (context : Context) : Context :=
  match context.root with
  | .map entries => ⟨.map (Entries.insert name v entries)⟩
  | _ => ⟨.map [(name, v)]⟩

/-- The context of a list of names with their values. -/
def ofPairs (pairs : List (String × Value)) : Context :=
  ⟨.map (Entries.ofPairs pairs)⟩

end Context

/-! ### Keys -/

/-- What a member or an item is looked up by. -/
inductive Key where
  | name (name : String)
  | number (value : Float)
  deriving DecidableEq

namespace Key

/-- The key that a value is: a text or a number. -/
def ofValue : Value → Except EvalError Key
  | .text s => .ok (.name s)
  | .number x => .ok (.number x)
  | v => .error (.invalidKey v.kind)

/-- The name that a key stands for in a map or a host object. -/
def toName : Key → String
  | name s => s
  | number x => Number.text x

/-- The position that a key stands for in a list. -/
def toIndex? : Key → Option Nat
  | name s => Decimal.readIndex? s.toList
  | number x => Number.toIndex? x

end Key

/-! ### Members, items and calls -/

namespace Value

variable {W : Type}

/-- The value under a key, null if there is none.  A map is searched by name, a list by position
and a host object for a member; null has nothing under any key, and other values have no keys. -/
def lookup (hosts : HostInterface W) (state : W) (key : Key) : Value → Except EvalError Value
  | null => .ok null
  | map entries => .ok ((Entries.find? key.toName entries).getD null)
  | list items => .ok ((key.toIndex?.bind (items[·]?)).getD null)
  | host ref => .ok ((hosts.member? state ref key.toName).getD null)
  | v => .error (.notNavigable key.toName v.kind)

/-- The value under a key, in the current state. -/
def get (hosts : HostInterface W) (key : Key) (v : Value) : Eval W Value := do
  Eval.ofExcept (v.lookup hosts (← MonadState.get) key)

/-- Calls a method of a value.  Null answers every call with null; otherwise the value has to be a
host object. -/
def call (hosts : HostInterface W) (method : String) (args : List Value) : Value → Eval W Value
  | null => pure null
  | host ref => hosts.call ref method args
  | v => throw (.notCallable method v.kind)

end Value

end HostExpr
