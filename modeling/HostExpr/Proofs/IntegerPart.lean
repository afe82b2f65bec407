import HostExpr.Proofs.ExactDoubles

/-!
# The integer part of a double

What truncation and the conversion to 64-bit integers do to the value of a double.

* `Number.integerPart`: the integer part of a rational number, toward zero;
* `Number.truncate_finite`, `Number.truncate_of_not_finite`: truncation gives the integer part of a finite
  double, with its sign, and keeps the others;
* `Number.isIntegral_finite`: a finite double is integral if its value is an integer;
* `Number.toInt64_finite`: the 64-bit integer of a double is its integer part, clamped.
-/

namespace HostExpr.Number

/-! ### Rational numbers -/

/-- The integer part of a rational number, toward zero. -/
def integerPart (q : ℚ) : ℤ :=
  if q < 0 then ⌈q⌉ else ⌊q⌋

theorem integerPart_intCast (n : ℤ) : integerPart n = n := by
  unfold integerPart
  split
  · exact Int.ceil_intCast n
  · exact Int.floor_intCast n

theorem integerPart_neg (q : ℚ) : integerPart (-q) = -integerPart q := by
  unfold integerPart
  rcases lt_trichotomy q 0 with h | rfl | h
  · rw [if_neg (not_lt.2 (neg_nonneg.2 h.le)), if_pos h, Int.floor_neg]
  · simp
  · rw [if_pos (neg_neg_of_pos h), if_neg (not_lt.2 h.le), Int.ceil_neg]

theorem integerPart_of_nonneg {q : ℚ} (h : 0 ≤ q) : integerPart q = ⌊q⌋ :=
  if_neg (not_lt.2 h)

/-! ### Parts -/

namespace Parts

/-- Without a negative exponent there is no fraction. -/
theorem magnitude_of_nonneg {p : Parts} (h : 0 ≤ p.exponent) : p.magnitude = p.floor := by
  obtain ⟨n, hn⟩ := Int.eq_ofNat_of_zero_le h
  unfold floor magnitude
  rw [if_pos h, hn, Int.toNat_natCast, zpow_natCast, Nat.pow_eq]
  push_cast
  rfl

/-- The magnitude without its fraction is the integer part of the magnitude. -/
theorem floor_eq (p : Parts) : (p.floor : ℤ) = ⌊p.magnitude⌋ := by
  by_cases h : 0 ≤ p.exponent
  · rw [magnitude_of_nonneg h, Int.floor_natCast]
  · have hneg : p.exponent = -(p.exponent.natAbs : ℤ) := by omega
    have hquotient := Rat.floor_intCast_div_natCast p.significand (2 ^ p.exponent.natAbs)
    push_cast at hquotient
    unfold floor magnitude
    rw [if_neg h]
    nth_rewrite 2 [hneg]
    rw [zpow_neg, zpow_natCast, ← div_eq_mul_inv, hquotient, Nat.pow_eq]
    push_cast
    rfl

/-- The integer part with the sign of the parts. -/
theorem integerPart_value (p : Parts) :
    integerPart p.value = if p.negative then -(p.floor : ℤ) else p.floor := by
  rw [floor_eq, ← integerPart_of_nonneg p.magnitude_nonneg]
  unfold value
  split
  · rw [integerPart_neg]
  · rfl

theorem floor_lt {p : Parts} (hp : p.Canonical) (h : p.exponent < 0) : p.floor < 2 ^ 53 := by
  unfold floor
  rw [if_neg (not_le.2 h)]
  exact lt_of_le_of_lt (Nat.div_le_self ..) hp.significand_lt

theorem value_whole (negative : Bool) (n : ℕ) :
    value ⟨negative, n, 0⟩ = if negative then -(n : ℚ) else n := by
  simp [value, magnitude]

end Parts

/-! ### Doubles -/

section

variable {x : Float} (hx : x.isFinite)

include hx

/-- Truncation gives the integer part, with the sign that the double had. -/
theorem truncate_finite :
    (truncate x).isFinite = true ∧ value (truncate x) = integerPart (value x) ∧
      (parts (truncate x)).negative = (parts x).negative := by
  have hp := (unpack_of_isFinite hx).1
  have hpart := Parts.integerPart_value (parts x)
  unfold truncate
  simp only [hx, Bool.true_and]
  by_cases h : (parts x).exponent < 0
  · have hfits : Parts.Fits ⟨(parts x).negative, (parts x).floor, 0⟩ :=
      Parts.fits_natCast (Parts.floor_lt hp h)
    have hcanonical := Parts.canonical_normalize hfits
    rw [if_pos (decide_eq_true h), ofParts_eq hfits, parts_ofCanonical hcanonical,
      value_ofCanonical hcanonical, Parts.value_normalize, Parts.negative_normalize]
    refine ⟨isFinite_ofCanonical hcanonical, ?_, rfl⟩
    rw [Parts.value_whole, value, hpart]
    split <;> push_cast <;> rfl
  · rw [if_neg (ne_true_of_eq_false (decide_eq_false h))]
    refine ⟨hx, ?_, rfl⟩
    rw [value, hpart, Parts.value, Parts.magnitude_of_nonneg (not_lt.1 h)]
    split <;> push_cast <;> rfl

/-- A finite double is integral if its value is an integer. -/
theorem isIntegral_finite : isIntegral x = true ↔ ∃ n : ℤ, value x = n := by
  obtain ⟨hfinite, hvalue, -⟩ := truncate_finite hx
  unfold isIntegral
  rw [hx, Bool.true_and, beq_iff_value hfinite hx, hvalue]
  constructor
  · intro h
    exact ⟨_, h.symm⟩
  · rintro ⟨n, hn⟩
    rw [hn, integerPart_intCast]

/-- The 64-bit integer of a finite double is its integer part, clamped at both ends. -/
theorem toInt64_finite :
    toInt64 x = max (-2 ^ 63) (min (2 ^ 63 - 1) (integerPart (value x))) := by
  obtain ⟨hnan, hinf⟩ := not_isNaN_not_isInf hx
  unfold toInt64
  rw [if_neg (ne_true_of_eq_false hnan), if_neg (ne_true_of_eq_false hinf), value,
    Parts.integerPart_value]
  rfl

end

/-- Truncation keeps what is not finite. -/
theorem truncate_of_not_finite {x : Float} (h : x.isFinite = false) : truncate x = x := by
  unfold truncate
  simp only [h, Bool.false_and, Bool.false_eq_true, if_false]

end HostExpr.Number
