import HostExpr.Json.Layout
import HostExpr.Json.Quote
import HostExpr.Value

/-!
# Values as text

* `Value.toJson`: the JSON text of a value;
* `Value.toText`: the text of a value where it is joined to other text.

In JSON a number is positional with the fewest digits that read back, a number that is not finite
is null, and a host object is the text of its type name in brackets.
-/

namespace HostExpr.Value

/-- The text of a host object. -/
def hostText (ref : HostRef) : String :=
  "[" ++ ref.typeName ++ "]"

mutual

/-- The JSON document of a value. -/
def layout : Value → Json.Layout
  | null => .scalar "null".toList
  | boolean b => .scalar (if b then "true".toList else "false".toList)
  | number x => .scalar (if x.isFinite then Number.plain x else "null".toList)
  | text s => .scalar (Json.quoteWith Json.escapeControls s)
  | list items => .list (layoutItems items)
  | map entries => .map (layoutEntries entries)
  | host ref => .scalar (Json.quoteWith Json.escapeControls (hostText ref))

/-- The JSON documents of the items of a list. -/
def layoutItems : List Value → List Json.Layout
  | [] => []
  | item :: items => layout item :: layoutItems items

/-- The JSON documents of the entries of a map. -/
def layoutEntries : List (String × Value) → List (List Char × Json.Layout)
  | [] => []
  | (key, value) :: entries =>
    (Json.quoteWith Json.escapeControls key, layout value) :: layoutEntries entries

end

/-- The JSON text of a value. -/
def toJson (style : Json.Style) (v : Value) : String :=
  v.layout.text style

/-- The text of a value: nothing for null, a text itself, the words for booleans and numbers, the
JSON text of a list or a map, and the type name of a host object in brackets. -/
def toText : Value → String
  | null => ""
  | boolean b => if b then "true" else "false"
  | number x => Number.text x
  | text s => s
  | list items => toJson .compact (list items)
  | map entries => toJson .compact (map entries)
  | host ref => hostText ref

end HostExpr.Value
