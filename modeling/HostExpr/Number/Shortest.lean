import HostExpr.Number.Decimal
import HostExpr.Number.Double

/-!
# The shortest decimal of a double

The decimal written for a positive finite double has the fewest digits that read back as the
same double, and of those with so few digits it is the nearest one.

* `Number.magnitude`: the place of the leading decimal digit;
* `Number.shortestOf`: the shortest decimal with a given rule for ties;
* `Number.exactDecimal`: the full decimal expansion, which every double has.

A tie (the double lies halfway between two decimals that both read back) is decided by the
format that asks: `Tie.up` or `Tie.toEven`.
-/

namespace HostExpr

/-- Which of two equally near decimals is written. -/
inductive Tie where
  | up
  | toEven
  deriving DecidableEq, Repr

namespace Number

/-- A positive double as a quotient of natural numbers. -/
def quotient (x : Float) : Nat × Nat :=
  let p := parts x
  (p.significand * Nat.pow 2 p.exponent.toNat, Nat.pow 2 (-p.exponent).toNat)

/-- The `k` with `10 ^ (k - 1) ≤ n / d < 10 ^ k`, for a quotient of at least `10 ^ -324`. -/
def magnitude (n d : Nat) : Int :=
  (Decimal.digitsOf (n * Nat.pow 10 324 / d)).length - 324

/-- The finite decimal expansion of a positive double. -/
def exactDecimal (x : Float) : Decimal :=
  let p := parts x
  if 0 ≤ p.exponent then ⟨p.significand * Nat.pow 2 p.exponent.toNat, 0⟩
  else ⟨p.significand * Nat.pow 5 p.exponent.natAbs, p.exponent⟩

/-- The decimal with `count` digits that is written for `x`, if one reads back: the nearer of the
two decimals around `x` that do. -/
def nearestWith (tie : Tie) (x : Float) (count : Nat) : Option Decimal :=
  let (n, d) := quotient x
  let exponent := magnitude n d - count
  let n := n * Nat.pow 10 (-exponent).toNat
  let d := d * Nat.pow 10 exponent.toNat
  let below : Decimal := ⟨n / d, exponent⟩
  let above : Decimal := ⟨n / d + 1, exponent⟩
  let twice := 2 * (n % d)
  let preferAbove := d < twice || (d = twice && (tie == .up || n / d % 2 = 1))
  let choices := if preferAbove then [above, below] else [below, above]
  choices.find? fun candidate => candidate.toFloat == x

/-- The shortest decimal that reads back as the positive finite double `x`, the nearest of its
length. -/
def shortestOf (tie : Tie) (x : Float) : Decimal :=
  let found := (List.range 17).findSome? fun i => nearestWith tie x (i + 1)
  (found.getD (exactDecimal x)).dropZeros 400

end Number

end HostExpr
