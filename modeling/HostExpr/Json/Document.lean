import HostExpr.Json.Layout
import HostExpr.Json.Quote
import HostExpr.Value.Text

/-!
# JSON documents

* `Json`: a document, where integers are kept apart from other numbers;
* `Json.toValue`: the value that a document stands for;
* `Json.ofValue`: the document of a value;
* `Json.toText`: the text of a document.

In `Json.ofValue` an integral number of magnitude below `2 ^ 53` becomes an integer, a number that
is not finite becomes null, and a host object the text of its type name in brackets.
-/

namespace HostExpr

/-- A JSON document. -/
inductive Json where
  | null
  | boolean (value : Bool)
  | integer (value : Int)
  | number (value : Float)
  | text (content : String)
  | list (items : List Json)
  | map (entries : List (String × Json))
  deriving Inhabited

namespace Json

/-! ### Values of documents -/

mutual

/-- The value that a document stands for.  Of the entries under one key the last one counts. -/
def toValue : Json → Value
  | null => .null
  | boolean b => .boolean b
  | integer n => .number (Number.ofInt n)
  | number x => .number x
  | text s => .text s
  | list items => .list (toValues items)
  | map entries => .map (Entries.ofPairs (toEntries entries))

/-- The values of the items of a list. -/
def toValues : List Json → List Value
  | [] => []
  | item :: items => toValue item :: toValues items

/-- The values under the keys of a map. -/
def toEntries : List (String × Json) → List (String × Value)
  | [] => []
  | (key, item) :: entries => (key, toValue item) :: toEntries entries

end

/-! ### Documents of values -/

/-- Whether a number is written as an integer: integral, and small enough to be exact. -/
def isExactInteger (x : Float) : Bool :=
  Number.isIntegral x && x.abs < 9007199254740992.0

/-- The document of a number. -/
def ofNumber (x : Float) : Json :=
  if isExactInteger x then .integer (Number.toInt64 x)
  else if x.isFinite then .number x
  else .null

mutual

/-- The document of a value. -/
def ofValue : Value → Json
  | .null => null
  | .boolean b => boolean b
  | .number x => ofNumber x
  | .text s => text s
  | .list items => list (ofValues items)
  | .map entries => map (ofEntries entries)
  | .host ref => text (Value.hostText ref)

/-- The documents of the items of a list. -/
def ofValues : List Value → List Json
  | [] => []
  | item :: items => ofValue item :: ofValues items

/-- The documents under the keys of a map. -/
def ofEntries : List (String × Value) → List (String × Json)
  | [] => []
  | (key, value) :: entries => (key, ofValue value) :: ofEntries entries

end

/-! ### Texts of documents -/

/-- The digits of an integer, after its sign. -/
def integerText (n : Int) : List Char :=
  if n < 0 then '-' :: Decimal.digitsOf n.natAbs else Decimal.digitsOf n.natAbs

/-- A decimal with a point after its first digit and a signed exponent. -/
def scientific (d : Decimal) : List Char :=
  let digits := Decimal.digitsOf d.digits
  let exponent := d.exponent + digits.length - 1
  let mantissa := match digits with
    | c :: c' :: cs => c :: '.' :: c' :: cs
    | cs => cs
  mantissa ++ 'e' :: (if exponent < 0 then '-' else '+') :: Decimal.digitsOf exponent.natAbs

/-- The text of a finite number that is no integer of the document: the fewest digits that read
back, with a point or an exponent.  It is positional from `10 ^ -5` up to below `10 ^ 16`; a tie
goes to the even digit. -/
def numberText (x : Float) : List Char :=
  let d : Decimal := if x == 0.0 then ⟨0, 0⟩ else Number.shortestOf .toEven x.abs
  let point := d.exponent + (Decimal.digitsOf d.digits).length
  let digits :=
    if -5 < point ∧ point ≤ 16 then
      if 0 ≤ d.exponent then d.positional ++ ['.', '0'] else d.positional
    else scientific d
  if (Number.parts x).negative then '-' :: digits else digits

mutual

/-- The layout of a document. -/
def layout : Json → Layout
  | null => .scalar "null".toList
  | boolean b => .scalar (if b then "true".toList else "false".toList)
  | integer n => .scalar (integerText n)
  | number x => .scalar (numberText x)
  | text s => .scalar (quoteWith escapeShort s)
  | list items => .list (layoutItems items)
  | map entries => .map (layoutEntries entries)

/-- The layouts of the items of a list. -/
def layoutItems : List Json → List Layout
  | [] => []
  | item :: items => layout item :: layoutItems items

/-- The layouts of the entries of a map. -/
def layoutEntries : List (String × Json) → List (List Char × Layout)
  | [] => []
  | (key, item) :: entries => (quoteWith escapeShort key, layout item) :: layoutEntries entries

end

/-- The text of a document. -/
def toText (style : Style) (doc : Json) : String :=
  doc.layout.text style

end Json

end HostExpr
