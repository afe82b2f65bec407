/-!
# Decimal notation

A decimal is a natural number of digits and a power of ten.

* `Decimal.ofDigits`: the decimal written by two runs of digits around a point, with an exponent;
* `Decimal.toFloat`: the double nearest to a decimal, infinity beyond the range;
* `Decimal.positional`: the digits of a decimal around its point, without an exponent;
* `Decimal.read?`: the decimal that a text spells: digits with at most one point, then an
  optional exponent;
* `Decimal.readIndex?`: the natural number of 64 bits that a text spells.
-/

namespace HostExpr

/-- The number `digits · 10 ^ exponent`. -/
structure Decimal where
  digits : Nat
  exponent : Int
  deriving DecidableEq, Repr

namespace Decimal

/-! ### Runs of digits -/

/-- An ASCII decimal digit. -/
def isDigit (c : Char) : Bool :=
  '0' ≤ c && c ≤ '9'

/-- The natural number that a run of digits spells. -/
def valueOfDigits (cs : List Char) : Nat :=
  cs.foldl (fun value c => 10 * value + (c.toNat - '0'.toNat)) 0

/-- The decimal digits of a natural number, the most significant first. -/
def digitsOf (n : Nat) : List Char :=
  Nat.toDigits 10 n

/-- The decimal spelled by the digits before and after a point and an exponent. -/
def ofDigits (whole fraction : List Char) (exponent : Int) : Decimal :=
  ⟨valueOfDigits (whole ++ fraction), exponent - fraction.length⟩

/-- The decimal of the same value whose digits do not end in a zero, looking at up to `n` zeros. -/
def dropZeros : Nat → Decimal → Decimal
  | 0, d => d
  | n + 1, d =>
    if d.digits ≠ 0 ∧ d.digits % 10 = 0 then dropZeros n ⟨d.digits / 10, d.exponent + 1⟩ else d

/-! ### Value -/

/-- The double nearest to a decimal, ties to the even significand.  A magnitude beyond the range
is infinite; the bounds on the exponent only keep the powers of ten small. -/
def toFloat (d : Decimal) : Float :=
  let top := d.exponent + (digitsOf d.digits).length
  if d.digits = 0 ∨ top < -400 then 0.0
  else if 400 < top then 1.0 / 0.0
  else Float.ofScientific d.digits (d.exponent < 0) d.exponent.natAbs

/-! ### Positional text -/

/-- The digits of a decimal around its point: zeros fill up to the point on either side, and
no point is written when no digit follows it. -/
def positional (d : Decimal) : List Char :=
  let digits := digitsOf d.digits
  let places := (-d.exponent).toNat
  if places = 0 then
    digits ++ List.replicate (if d.digits = 0 then 0 else d.exponent.toNat) '0'
  else if places < digits.length then
    digits.take (digits.length - places) ++ '.' :: digits.drop (digits.length - places)
  else
    '0' :: '.' :: (List.replicate (places - digits.length) '0' ++ digits)

/-! ### Reading -/

/-- The exponent part of a number: `e` or `E`, an optional sign and at least one digit, up to the
end of the text.  No exponent part at all counts as zero. -/
def readExponent? : List Char → Option Int
  | [] => some 0
  | e :: cs =>
    let run := match cs with
      | '+' :: digits => (false, digits)
      | '-' :: digits => (true, digits)
      | digits => (false, digits)
    if (e = 'e' ∨ e = 'E') ∧ run.2 ≠ [] ∧ run.2.all isDigit then
      some (if run.1 then -(valueOfDigits run.2 : Int) else valueOfDigits run.2)
    else none

/-- The decimal that a whole text spells: digits with at most one point, at least one digit on
one side of it, then an optional exponent part. -/
def read? (cs : List Char) : Option Decimal :=
  let whole := cs.takeWhile isDigit
  let (fraction, rest) := match cs.dropWhile isDigit with
    | '.' :: rest => (rest.takeWhile isDigit, rest.dropWhile isDigit)
    | rest => ([], rest)
  if whole = [] ∧ fraction = [] then none
  else (readExponent? rest).map (ofDigits whole fraction)

/-- The natural number that a text spells: digits, at least one, perhaps after a plus sign, and
within 64 bits. -/
def readIndex? (cs : List Char) : Option Nat :=
  let digits := match cs with
    | '+' :: cs => cs
    | cs => cs
  if digits ≠ [] ∧ digits.all isDigit ∧ valueOfDigits digits < Nat.pow 2 64 then
    some (valueOfDigits digits)
  else none

end Decimal

end HostExpr
