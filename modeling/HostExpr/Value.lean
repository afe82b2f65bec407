import HostExpr.Entries
import HostExpr.Number.Text
import HostExpr.Text.Blank

/-!
# Values

* `Value`: what expressions compute: null, booleans, numbers, texts, lists, maps with ordered
  entries, and references to host objects;
* `Value.kind`: the kind of a value, and `Kind.name`, its name in messages;
* `Value.isTruthy`: whether a value counts as true in a chain of `&&`;
* `Value.number?`: the numeric form of a value;
* `Value.beq`: equality, which for maps does not depend on the order of the entries;
* `Value.order?`: the order of numbers and of texts.
-/

namespace HostExpr

/-- A reference to a host object: which object it is, and the name of its type. -/
structure HostRef where
  id : Nat
  typeName : String
  deriving DecidableEq, Repr

/-- A value.  The keys of a map are distinct, as `Entries.insert` keeps them. -/
inductive Value where
  | null
  | boolean (value : Bool)
  | number (value : Float)
  | text (content : String)
  | list (items : List Value)
  | map (entries : List (String × Value))
  | host (ref : HostRef)
  deriving Inhabited

/-- The kinds of values. -/
inductive Kind where
  | null
  | boolean
  | number
  | text
  | list
  | map
  | host
  deriving DecidableEq, Repr

/-- The name of a kind in messages. -/
def Kind.name : Kind → String
  | null => "null"
  | boolean => "boolean"
  | number => "number"
  | text => "string"
  | list => "list"
  | map => "map"
  | host => "host object"

namespace Value

/-! ### Kinds and truth -/

/-- The kind of a value. -/
def kind : Value → Kind
  | null => .null
  | boolean _ => .boolean
  | number _ => .number
  | text _ => .text
  | list _ => .list
  | map _ => .map
  | host _ => .host

/-- Whether a value is null. -/
def isNull : Value → Bool
  | null => true
  | _ => false

/-- Whether a value counts as true: not null, not false, not a zero or NaN, not empty. -/
def isTruthy : Value → Bool
  | null => false
  | boolean b => b
  | number x => x != 0.0 && !x.isNaN
  | text s => s != ""
  | list items => !items.isEmpty
  | map entries => !entries.isEmpty
  | host _ => true

/-! ### Numeric form -/

/-- The numeric form of a value: numbers themselves, and texts that spell a finite number between
blanks. -/
def number? : Value → Option Float
  | number x => some x
  | text s => Number.finite? (Blank.trim s.toList)
  | _ => none

/-! ### Equality -/

mutual

/-- Equality of values.  Values of different kinds are not equal, numbers are compared as doubles,
host objects are equal to themselves only, and maps are equal if they have the same keys with
equal values. -/
def beq : Value → Value → Bool
  | null, null => true
  | boolean a, boolean b => a == b
  | number x, number y => x == y
  | text s, text t => s == t
  | list xs, list ys => beqItems xs ys
  | map es, map fs => es.length == fs.length && beqEntries es fs
  | host r, host s => r.id == s.id
  | _, _ => false

/-- Equality of lists, item by item. -/
def beqItems : List Value → List Value → Bool
  | [], [] => true
  | x :: xs, y :: ys => beq x y && beqItems xs ys
  | _, _ => false

/-- Whether every entry of the first list has an equal value under its key in the second. -/
def beqEntries : List (String × Value) → List (String × Value) → Bool
  | [], _ => true
  | (key, x) :: es, fs =>
    (match Entries.find? key fs with
      | some y => beq x y
      | none => false) && beqEntries es fs

end

instance : BEq Value := ⟨beq⟩

/-! ### Order -/

/-- The order of two numbers, none if one is NaN. -/
def orderNumbers? (x y : Float) : Option Ordering :=
  if x < y then some .lt
  else if x == y then some .eq
  else if y < x then some .gt
  else none

/-- The order of two values: numbers by size and texts by the code points of their characters.
All other pairs are unordered. -/
def order? : Value → Value → Option Ordering
  | number x, number y => orderNumbers? x y
  | text s, text t => some (compare s t)
  | _, _ => none

end Value

end HostExpr
