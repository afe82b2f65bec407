import HostExpr.Json.Document

/-!
# Numbers in JSON texts

A number without a point and an exponent is an integer if it fits 64 bits.  Every other number is
read in double precision, from a significand of 64 bits and a power of ten:

* `Json.gather`: collects digits as long as they fit 64 bits; further digits before the point
  only raise the power of ten, and further digits after it are dropped;
* `Json.scale`: multiplies or divides the significand, as a double, by the power of ten, which
  rounds once for the significand and once for each step;
* `Json.readNumber`: the number at the front of a text.

So a number of more than about 15 digits may differ in its last bit from the nearest double.
-/

namespace HostExpr.Json

/-! ### Significand and power of ten -/

/-- The significand after as many digits as fit 64 bits, how many they were, and the text after
them. -/
def gather : Nat → List Char → Nat × Nat × List Char
  | significand, [] => (significand, 0, [])
  | significand, c :: cs =>
    let next := 10 * significand + (c.toNat - '0'.toNat)
    if Decimal.isDigit c ∧ next < Nat.pow 2 64 then
      let (significand, count, rest) := gather next cs
      (significand, count + 1, rest)
    else (significand, 0, c :: cs)

/-- The double nearest to a power of ten. -/
def powerOfTen (n : Nat) : Float :=
  (Decimal.mk 1 n).toFloat

/-- A double times a power of ten, in steps of at most `10 ^ 308`; none if the result is beyond
the range.  Four steps are enough for every 64-bit significand. -/
def scaleIn : Nat → Float → Int → Option Float
  | 0, x, _ => some x
  | steps + 1, x, exponent =>
    if 308 < exponent then (if x == 0.0 then some x else none)
    else if 0 ≤ exponent then (some (x * powerOfTen exponent.toNat)).filter Float.isFinite
    else if -308 ≤ exponent then some (x / powerOfTen exponent.natAbs)
    else if x == 0.0 then some x
    else scaleIn steps (x / powerOfTen 308) (exponent + 308)

/-- A 64-bit significand times a power of ten. -/
def scale (significand : Nat) (exponent : Int) : Option Float :=
  scaleIn 4 (Float.ofNat significand) exponent

/-! ### Parts of a number -/

/-- The exponent part after `e`: its sign and its digits, at least one, and the text after it. -/
def readExponent : List Char → Option (Bool × Nat × List Char)
  | cs =>
    let (negative, cs) := match cs with
      | '+' :: cs => (false, cs)
      | '-' :: cs => (true, cs)
      | cs => (false, cs)
    let digits := cs.takeWhile Decimal.isDigit
    if digits = [] then none
    else some (negative, Decimal.valueOfDigits digits, cs.dropWhile Decimal.isDigit)

/-- The end of a number whose significand and power of ten so far are known: an exponent part, if
there is one, changes the power.  A power beyond 32 bits gives zero or is out of range. -/
def finish (significand : Nat) (exponent : Int) : List Char → Option (Float × List Char)
  | e :: cs =>
    if e = 'e' ∨ e = 'E' then do
      let (negative, power, rest) ← readExponent cs
      if Nat.pow 2 31 ≤ power then
        if significand ≠ 0 ∧ !negative then none else some (0.0, rest)
      else
        let x ← scale significand (if negative then exponent - power else exponent + power)
        some (x, rest)
    else do some (← scale significand exponent, e :: cs)
  | [] => do some (← scale significand exponent, [])

/-- Whether a text starts with a digit. -/
def atDigit : List Char → Bool
  | c :: _ => Decimal.isDigit c
  | [] => false

/-- The digits after a point, at least one, and the end of the number. -/
def readFraction (significand : Nat) (exponent : Int) (cs : List Char) :
    Option (Float × List Char) :=
  let (significand, count, rest) := gather significand cs
  if count = 0 ∧ !atDigit rest then none
  else finish significand (exponent - count) (rest.dropWhile Decimal.isDigit)

/-- What follows the digits before the point, the power of ten being given. -/
def readTail (significand : Nat) (exponent : Int) : List Char → Option (Float × List Char)
  | '.' :: cs => readFraction significand exponent cs
  | cs => finish significand exponent cs

/-- Whether a text goes on with a point or an exponent. -/
def atTail : List Char → Bool
  | c :: _ => c = '.' || c = 'e' || c = 'E'
  | [] => false

/-- A number of 64 bits without point and exponent, which is a double if its negative does not fit
or is the negative zero. -/
def wholeNumber (negative : Bool) (significand : Nat) : Json :=
  if !negative then integer significand
  else if significand = 0 ∨ Nat.pow 2 63 < significand then number (-Float.ofNat significand)
  else integer (-significand)

/-- A number without its sign. -/
def readMagnitude (negative : Bool) (cs : List Char) : Option (Json × List Char) :=
  let signed (x : Float) := number (if negative then -x else x)
  match cs with
  | [] => none
  | c :: after =>
    if !Decimal.isDigit c ∨ (c = '0' ∧ atDigit after) then none
    else
      let (significand, _, rest) := gather 0 cs
      let further := (rest.takeWhile Decimal.isDigit).length
      let rest := rest.dropWhile Decimal.isDigit
      if further = 0 ∧ !atTail rest then some (wholeNumber negative significand, rest)
      else do
        let (x, rest) ← readTail significand further rest
        some (signed x, rest)

/-- The number at the front of a text, and the text after it. -/
def readNumber : List Char → Option (Json × List Char)
  | '-' :: cs => readMagnitude true cs
  | cs => readMagnitude false cs

end HostExpr.Json
