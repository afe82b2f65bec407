import HostExpr.Value

/-!
# Arguments and results of the bundled methods

* `Arg.text`, `Arg.integer`, `Arg.list`, `Arg.value`: what a method reads at a place among its
  arguments; what is absent or of another kind counts as empty, zero or null;
* `Value.ofCount`, `Value.ofPlace`: numbers that count and numbers of places.
-/

namespace HostExpr

namespace Arg

/-- The text at a place among the arguments; anything else counts as empty. -/
def text (args : List Value) (i : Nat) : String :=
  match args[i]? with
  | some (.text s) => s
  | _ => ""

/-- The integer at a place among the arguments; anything but a number counts as zero. -/
def integer (args : List Value) (i : Nat) : Int :=
  match args[i]? with
  | some (.number x) => Number.toInt64 x
  | _ => 0

/-- The list at a place among the arguments; anything else counts as empty. -/
def list (args : List Value) (i : Nat) : List Value :=
  match args[i]? with
  | some (.list items) => items
  | _ => []

/-- The value at a place among the arguments; null if there is none. -/
def value (args : List Value) (i : Nat) : Value :=
  args[i]?.getD .null

end Arg

/-- The number that counts things. -/
def Value.ofCount (n : Nat) : Value :=
  .number (Float.ofNat n)

/-- The number of a place, and `-1` for no place. -/
def Value.ofPlace (place? : Option Nat) : Value :=
  match place? with
  | some i => .ofCount i
  | none => .number (-1.0)

end HostExpr
