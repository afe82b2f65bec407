import HostExpr.Host.Argument
import HostExpr.Host.Object
import HostExpr.Value.Text

/-!
# The bundled host object for lists

* `ListHost.join`, `length`, `first`, `last`, `indexOf`, `reverse`: its methods, on values;
* `ListHost.descriptor`: the host type `Array` that declares them.
-/

namespace HostExpr

namespace ListHost

/-! ### Methods -/

/-- The texts of the items with a separator between them. -/
def join (items : List Value) (separator : String) : Value :=
  .text (separator.intercalate (items.map Value.toText))

/-- The place of the first item that equals a value. -/
def indexOf (items : List Value) (needle : Value) : Value :=
  .ofPlace (items.findIdx? (· == needle))

/-- The parameter for the list that every method takes first. -/
def input : Param := { name := "array", kind := .list }

variable {σ : Type}

/-- The methods that an object allows. -/
def allowed : List String :=
  ["join", "length", "first", "last", "indexOf", "reverse"]

/-- The host type of the list object. -/
def descriptor : Descriptor σ :=
  let base : Descriptor σ :=
    { typeName := "Array", allows := fun _ method => allowed.contains method }
  base
    |>.withReading "join"
      [input, { name := "separator", kind := .text, default? := some (.text ",") }]
      (fun _ args => .ok (join (Arg.list args 0) (Arg.text args 1)))
    |>.withReading "length" [input]
      (fun _ args => .ok (.ofCount (Arg.list args 0).length))
    |>.withReading "first" [input]
      (fun _ args => .ok ((Arg.list args 0).head?.getD .null))
    |>.withReading "last" [input]
      (fun _ args => .ok ((Arg.list args 0).getLast?.getD .null))
    |>.withReading "indexOf" [input, { name := "needle", kind := .any }]
      (fun _ args => .ok (indexOf (Arg.list args 0) (Arg.value args 1)))
    |>.withReading "reverse" [input]
      (fun _ args => .ok (.list (Arg.list args 0).reverse))

end ListHost

end HostExpr
