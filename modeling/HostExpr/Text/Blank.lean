import HostExpr.Text.CharSet

/-!
# Blank characters

* `Blank.isBlank`: the Unicode property White_Space;
* `Blank.trim`: a text without the blanks at either end.
-/

namespace HostExpr.Blank

/-- The characters with the property White_Space. -/
def blanks : CharSet :=
  .ofTable [
    "9-d 20 85 a0 1680 2000-200a 2028-2029 202f 205f 3000"]

/-- Whether a character is white space. -/
def isBlank (c : Char) : Bool :=
  blanks.contains c

/-- A text without the blanks at its start and its end. -/
def trim (cs : List Char) : List Char :=
  ((cs.dropWhile isBlank).reverse.dropWhile isBlank).reverse

end HostExpr.Blank
