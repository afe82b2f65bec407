/-!
# Exact arithmetic on double-precision numbers

A finite double is a sign, a natural significand and a power of two.  The operations that
have to be exact are done on that form in natural numbers:

* `Number.parts` / `Number.ofParts`: a finite double taken apart and put together;
* `Number.truncate`: the integer part, toward zero, the sign of a zero kept;
* `Number.remainder`: the remainder of the division truncated toward zero, with the sign of
  the dividend;
* `Number.toInt64`: the nearest 64-bit integer toward zero, clamped at both ends, NaN as zero;
* `Number.toIndex?`: the position in a list that a number stands for, if any.
-/

namespace HostExpr.Number

/-! ### Parts of a double -/

/-- A finite double, read as `±significand · 2 ^ exponent`. -/
structure Parts where
  negative : Bool
  significand : Nat
  exponent : Int
  deriving DecidableEq, Repr

/-- The parts of a double; only the sign is meaningful for an infinity or a NaN. -/
def parts (x : Float) : Parts :=
  let bits := x.toBits.toNat
  let biased : Nat := bits / Nat.pow 2 52 % Nat.pow 2 11
  let fraction : Nat := bits % Nat.pow 2 52
  let negative := Nat.pow 2 63 ≤ bits
  if biased = 0 then ⟨negative, fraction, -1074⟩
  else ⟨negative, Nat.pow 2 52 + fraction, biased - 1075⟩

/-- The double with the given parts, for a significand below `2 ^ 53` and an exponent of at
least `-1074` whose value is within range.  The significand is shifted up until its top bit
is in place or the exponent cannot go lower. -/
def ofParts (p : Parts) : Float :=
  if p.significand = 0 then
    if p.negative then -0.0 else 0.0
  else
    let shift := min (52 - p.significand.log2) (p.exponent + 1074).toNat
    let significand := p.significand * Nat.pow 2 shift
    let biased := if significand < Nat.pow 2 52 then 0 else (p.exponent - shift + 1075).toNat
    let magnitude := biased * Nat.pow 2 52 + significand % Nat.pow 2 52
    Float.ofBits (UInt64.ofNat (if p.negative then Nat.pow 2 63 + magnitude else magnitude))

/-- The magnitude without its fraction. -/
def Parts.floor (p : Parts) : Nat :=
  if 0 ≤ p.exponent then p.significand * Nat.pow 2 p.exponent.toNat
  else p.significand / Nat.pow 2 p.exponent.natAbs

/-! ### Integer part and remainder -/

/-- The integer part of a number, toward zero.  Infinities and NaN are kept. -/
def truncate (x : Float) : Float :=
  let p := parts x
  if x.isFinite && p.exponent < 0 then ofParts ⟨p.negative, p.floor, 0⟩ else x

/-- Whether a number is finite and without a fraction. -/
def isIntegral (x : Float) : Bool :=
  x.isFinite && truncate x == x

/-- The exact remainder of the division truncated toward zero.  It has the sign of the
dividend; it is NaN for an infinite dividend, a zero divisor or a NaN, and an infinite divisor
leaves the dividend. -/
def remainder (x y : Float) : Float :=
  if x.isNaN || y.isNaN || x.isInf || y == 0.0 then 0.0 / 0.0
  else if y.isInf then x
  else
    let p := parts x
    let q := parts y
    let low := min p.exponent q.exponent
    let dividend := p.significand * Nat.pow 2 (p.exponent - low).toNat
    let divisor := q.significand * Nat.pow 2 (q.exponent - low).toNat
    ofParts ⟨p.negative, dividend % divisor, low⟩

/-! ### Integers that a number stands for -/

/-- The integer part of a number as a signed 64-bit integer, clamped at both ends; NaN gives
zero. -/
def toInt64 (x : Float) : Int :=
  if x.isNaN then 0
  else if x.isInf then (if x < 0.0 then Int64.minValue.toInt else Int64.maxValue.toInt)
  else
    let p := parts x
    let magnitude : Int := p.floor
    let signed := if p.negative then -magnitude else magnitude
    max Int64.minValue.toInt (min Int64.maxValue.toInt signed)

/-- The list position that a number stands for: the integer part of a finite number that is
not negative. -/
def toIndex? (x : Float) : Option Nat :=
  if x.isFinite && 0.0 ≤ x then some (parts x).floor else none

/-- The double nearest to an integer. -/
def ofInt (n : Int) : Float :=
  if n < 0 then -Float.ofNat n.natAbs else Float.ofNat n.natAbs

end HostExpr.Number
