import HostExpr.Proofs.IntegerPart

/-!
# The remainder of doubles

What is left of one double when it is divided by another and the quotient is cut off toward zero.

* `Number.IsRemainder`: the remainder of two doubles, by what they stand for;
* `Number.Parts.remainder`: the remainder of the parts of two doubles, over the lower of their exponents;
* `Number.Parts.value_remainder`, `Number.Parts.fits_remainder`: it has the value that it should have, and
  nothing of it is rounded;
* `Number.remainder_eq_iff`: the remainder that is computed is the only one.
-/

namespace HostExpr.Number

/-- What the remainder of two doubles is.  There is none of what is no number, of an infinity, or for a
divisor of zero; an infinite divisor leaves the dividend; and otherwise the whole multiples of the divisor
are taken from the dividend, whose sign the remainder has. -/
inductive IsRemainder (x y : Float) : Float → Prop
  | undefined {r : Float} (h : x.isNaN ∨ y.isNaN ∨ x.isInf ∨ y == 0.0) (hr : r.isNaN) : IsRemainder x y r
  | dividend (hx : x.isFinite) (hy : y.isInf) : IsRemainder x y x
  | rest {r : Float} (hx : x.isFinite) (hy : y.isFinite) (hzero : value y ≠ 0) (hr : r.isFinite)
      (hvalue : value r = value x - value y * integerPart (value x / value y))
      (hsign : (parts r).negative = (parts x).negative) : IsRemainder x y r

/-! ### Parts -/

namespace Parts

/-- The significand over a lower exponent. -/
def scaled (p : Parts) (low : ℤ) : ℕ :=
  p.significand * 2 ^ (p.exponent - low).toNat

/-- The remainder of the significands over the lower of the two exponents, with the sign of the
dividend. -/
def remainder (p q : Parts) : Parts :=
  let low := min p.exponent q.exponent
  ⟨p.negative, p.scaled low % q.scaled low, low⟩

variable {p q : Parts}

theorem magnitude_scaled {low : ℤ} (h : low ≤ p.exponent) :
    p.magnitude = (p.scaled low : ℚ) * 2 ^ low :=
  magnitude_carried rfl (by omega)

theorem scaled_self (p : Parts) : p.scaled p.exponent = p.significand := by
  unfold scaled
  rw [sub_self]
  exact mul_one _

/-- The significand of the remainder is below the divisor and at most the dividend, one of which keeps its
significand. -/
theorem fits_remainder (hp : p.Canonical) (hq : q.Canonical) (hpos : 0 < q.significand) :
    (p.remainder q).Fits := by
  refine ⟨?_, le_min hp.le_exponent hq.le_exponent, (min_le_left _ _).trans hp.exponent_le⟩
  show p.scaled (min p.exponent q.exponent) % q.scaled (min p.exponent q.exponent) < 2 ^ 53
  rcases le_total p.exponent q.exponent with h | h
  · rw [min_eq_left h, scaled_self]
    exact (Nat.mod_le _ _).trans_lt hp.significand_lt
  · rw [min_eq_right h, scaled_self]
    exact (Nat.mod_lt _ hpos).trans hq.significand_lt

/-- The remainder of two magnitudes. -/
theorem magnitude_remainder (p q : Parts) :
    (p.remainder q).magnitude =
      p.magnitude - q.magnitude * integerPart (p.magnitude / q.magnitude) := by
  let low := min p.exponent q.exponent
  have hp : p.magnitude = (p.scaled low : ℚ) * 2 ^ low := magnitude_scaled (min_le_left _ _)
  have hq : q.magnitude = (q.scaled low : ℚ) * 2 ^ low := magnitude_scaled (min_le_right _ _)
  have hquotient : integerPart (p.magnitude / q.magnitude) = (p.scaled low / q.scaled low : ℕ) := by
    rw [integerPart_of_nonneg (div_nonneg p.magnitude_nonneg q.magnitude_nonneg), hp, hq,
      mul_div_mul_right _ _ (zpow_ne_zero _ two_ne_zero)]
    exact Rat.floor_natCast_div_natCast _ _
  have hrest : ((p.scaled low % q.scaled low : ℕ) : ℚ) =
      p.scaled low - q.scaled low * (p.scaled low / q.scaled low : ℕ) := by
    rw [eq_sub_iff_add_eq']
    exact mod_cast Nat.div_add_mod (p.scaled low) (q.scaled low)
  rw [hquotient, hp, hq]
  show ((p.scaled low % q.scaled low : ℕ) : ℚ) * 2 ^ low = _
  rw [hrest, Int.cast_natCast]
  ring

/-- The signs of the two operands cancel in the multiple of the divisor, up to that of the dividend. -/
theorem value_remainder (p q : Parts) :
    (p.remainder q).value = p.value - q.value * integerPart (p.value / q.value) := by
  have hmagnitude := magnitude_remainder p q
  have hsign : (p.remainder q).negative = p.negative := rfl
  unfold value
  rw [hsign, hmagnitude]
  cases p.negative with
  | true =>
    cases q.negative with
    | true => simp only [if_true, neg_div_neg_eq]; ring
    | false => simp only [if_true, Bool.false_eq_true, if_false, neg_div, integerPart_neg]; push_cast; ring
  | false =>
    cases q.negative with
    | true => simp only [if_true, Bool.false_eq_true, if_false, div_neg, integerPart_neg]; push_cast; ring
    | false => rfl

end Parts

/-! ### Doubles -/

section

variable {x y r : Float}

/-- There is only one NaN. -/
theorem eq_of_isNaN (hx : x.isNaN) (hy : y.isNaN) : x = y := by
  rw [Float.isNaN_eq_decide_eq_nan, decide_eq_true_iff] at hx hy
  rw [hx, hy]

theorem remainder_undefined (h : x.isNaN ∨ y.isNaN ∨ x.isInf ∨ y == 0.0) : remainder x y = 0.0 / 0.0 := by
  unfold remainder
  simp only [Bool.or_eq_true, or_assoc]
  rw [if_pos h]

/-- An infinity is a number. -/
theorem not_isNaN_of_isInf (h : y.isInf) : y.isNaN = false := by
  have hunpack : y.toModel.unpack.isInf = true := h
  show y.toModel.unpack.isNaN = false
  generalize y.toModel.unpack = u at hunpack
  cases u with
  | infinity => rfl
  | _ => cases hunpack

/-- What equals a finite double is finite. -/
theorem isFinite_of_beq (hx : x.isFinite) (h : (y == x) = true) : y.isFinite := by
  obtain ⟨r, hy, hr⟩ := beq_iff_extended.1 h
  obtain ⟨q, hq⟩ := isFinite_iff_extended.1 hx
  exact isFinite_iff_extended.2 ⟨q, hy.trans (hr.symm.trans hq)⟩

theorem remainder_infinite (hx : x.isFinite) (hy : y.isInf) : remainder x y = x := by
  obtain ⟨hxNaN, hxInf⟩ := not_isNaN_not_isInf hx
  have hyZero : (y == 0.0) = false := by
    rw [← Bool.not_eq_true]
    intro h
    have hfinite := (not_isNaN_not_isInf (isFinite_of_beq isFinite_zeros.1 h)).2
    exact absurd hy (ne_true_of_eq_false hfinite)
  unfold remainder
  rw [hxNaN, hxInf, not_isNaN_of_isInf hy, hyZero, hy]
  rfl

theorem remainder_finite (hx : x.isFinite) (hy : y.isFinite) (hzero : value y ≠ 0) :
    (remainder x y).isFinite ∧
      value (remainder x y) = value x - value y * integerPart (value x / value y) ∧
        (parts (remainder x y)).negative = (parts x).negative := by
  obtain ⟨hxNaN, hxInf⟩ := not_isNaN_not_isInf hx
  obtain ⟨hyNaN, hyInf⟩ := not_isNaN_not_isInf hy
  have hyZero : (y == 0.0) = false := by
    rw [← Bool.not_eq_true, beq_iff_value hy isFinite_zeros.1, value_zeros.1]
    exact hzero
  have hpos : 0 < (parts y).significand := by
    refine Nat.pos_of_ne_zero fun h => hzero ?_
    exact Parts.value_of_zero h
  have hfits := Parts.fits_remainder (unpack_of_isFinite hx).1 (unpack_of_isFinite hy).1 hpos
  have hcanonical := Parts.canonical_normalize hfits
  have heq : remainder x y = ofCanonical ((parts x).remainder (parts y)).normalize := by
    unfold remainder
    rw [hxNaN, hxInf, hyNaN, hyInf, hyZero]
    exact ofParts_eq hfits
  rw [heq, parts_ofCanonical hcanonical, value_ofCanonical hcanonical, Parts.value_normalize,
    Parts.negative_normalize]
  exact ⟨isFinite_ofCanonical hcanonical, Parts.value_remainder .., rfl⟩

/-- The remainder is the one that is computed. -/
theorem remainder_eq_iff : remainder x y = r ↔ IsRemainder x y r := by
  constructor
  · rintro rfl
    by_cases hundefined : x.isNaN ∨ y.isNaN ∨ x.isInf ∨ y == 0.0
    · refine .undefined hundefined ?_
      rw [remainder_undefined hundefined]
      decide +kernel
    · obtain ⟨hxNaN, hyNaN, hxInf, hyZero⟩ : ¬x.isNaN ∧ ¬y.isNaN ∧ ¬x.isInf ∧ ¬(y == 0.0) := by
        simpa only [not_or] using hundefined
      have hx : x.isFinite := ((isNaN_or_isInf_or_isFinite x).resolve_left hxNaN).resolve_left hxInf
      obtain hy | hy := (isNaN_or_isInf_or_isFinite y).resolve_left hyNaN
      · rw [remainder_infinite hx hy]
        exact .dividend hx hy
      · have hzero : value y ≠ 0 := by
          rw [beq_iff_value hy isFinite_zeros.1, value_zeros.1] at hyZero
          exact hyZero
        obtain ⟨hfinite, hvalue, hsign⟩ := remainder_finite hx hy hzero
        exact .rest hx hy hzero hfinite hvalue hsign
  · intro h
    cases h with
    | undefined h hr =>
      rw [remainder_undefined h]
      exact eq_of_isNaN (by decide +kernel) hr
    | dividend hx hy => exact remainder_infinite hx hy
    | rest hx hy hzero hr hvalue hsign =>
      obtain ⟨hfinite, hvalue', hsign'⟩ := remainder_finite hx hy hzero
      exact eq_of_value hfinite hr (hvalue'.trans hvalue.symm) (hsign'.trans hsign.symm)

end

end HostExpr.Number
