import HostExpr.Number.Shortest

/-!
# Numbers as text

* `Number.plain`: the positional text of a finite number, with the fewest digits that read back;
* `Number.text`: the text of a number where values are joined into text;
* `Number.read?`: the number that a text spells;
* `Number.finite?`: the same, for finite numbers only.
-/

namespace HostExpr.Number

/-- A finite number in positional notation: a minus sign if its sign bit is set, then the shortest
digits that read back, a tie going up. -/
def plain (x : Float) : List Char :=
  let digits := if x == 0.0 then ['0'] else (shortestOf .up x.abs).positional
  if (parts x).negative then '-' :: digits else digits

/-- The text of a number inside a text: positional, and the three values that are not finite
spelled out. -/
def text (x : Float) : String :=
  if x.isNaN then "NaN"
  else if x.isInf then (if x < 0.0 then "-Infinity" else "Infinity")
  else String.ofList (plain x)

/-- The number that a whole text spells: an optional sign and a decimal.  A decimal beyond the
range reads as infinite. -/
def read? : List Char → Option Float
  | '+' :: cs => (Decimal.read? cs).map Decimal.toFloat
  | '-' :: cs => (Decimal.read? cs).map fun d => -d.toFloat
  | cs => (Decimal.read? cs).map Decimal.toFloat

/-- The finite number that a text spells. -/
def finite? (cs : List Char) : Option Float :=
  (read? cs).filter Float.isFinite

end HostExpr.Number
