import HostExpr.Proofs.ExactDoubles

/-!
# Natural numbers rounded to doubles

A natural number from `2 ^ 53` on is rounded when it becomes a double, but not beyond any double that is at
least as large.

* `Number.IsQuotient`: what repeated shifts leave of a significand, with `IsQuotient.le_rounded` and
  `IsQuotient.rounded_le`: rounding goes no further than to the next integer;
* `Number.exists_roundWithAccuracy`: what the rounding of a large natural number comes to;
* `Number.value_ofNat_le`: the double of a natural number is at most every double that is at least this
  number.
-/

namespace HostExpr.Number

open Float.Model Float.Model.UnpackedFloat

/-! ### Shifts -/

/-- An extended mantissa is what is left of `m` after `k` shifts: the quotient by `2 ^ k`, and both bits are
clear if the division is exact. -/
structure IsQuotient (em : ExtendedMantissa) (m k : ℕ) : Prop where
  mantissa_eq : em.mantissa = m / 2 ^ k
  exact_iff : em.roundBit = false ∧ em.stickyBit = false ↔ 2 ^ k ∣ m

namespace IsQuotient

variable {em : ExtendedMantissa} {m k : ℕ}

theorem shiftRightOne (h : IsQuotient em m k) : IsQuotient em.shiftRightOne m (k + 1) where
  mantissa_eq := by
    show em.mantissa / 2 = m / 2 ^ (k + 1)
    rw [h.mantissa_eq, Nat.div_div_eq_div_mul, pow_succ]
  exact_iff := by
    have hround : (em.mantissa % 2 != 0) = false ↔ 2 ∣ em.mantissa := by
      rw [bne_eq_false_iff_eq, Nat.dvd_iff_mod_eq_zero]
    show (em.mantissa % 2 != 0) = false ∧ (em.roundBit || em.stickyBit) = false ↔ 2 ^ (k + 1) ∣ m
    rw [hround, Bool.or_eq_false_iff, h.exact_iff, h.mantissa_eq, pow_succ]
    constructor
    · rintro ⟨heven, hdvd⟩
      exact (Nat.dvd_div_iff_mul_dvd hdvd).1 heven
    · intro hdvd
      have hpower : 2 ^ k ∣ m := dvd_of_mul_right_dvd hdvd
      exact ⟨(Nat.dvd_div_iff_mul_dvd hpower).2 hdvd, hpower⟩

theorem shiftRight (m k : ℕ) : IsQuotient ((⟨m, false, false⟩ : ExtendedMantissa) >>> k) m k := by
  show IsQuotient (Nat.repeat ExtendedMantissa.shiftRightOne k ⟨m, false, false⟩) m k
  induction k with
  | zero => exact ⟨(Nat.div_one m).symm, by simp [Nat.repeat]⟩
  | succ k ih => exact ih.shiftRightOne

theorem rounded_cases (h : IsQuotient em m k) :
    (em.roundedMantissa = em.mantissa) ∨ (em.roundedMantissa = em.mantissa + 1 ∧ ¬2 ^ k ∣ m) := by
  rw [← h.exact_iff]
  obtain ⟨mantissa, roundBit, stickyBit⟩ := em
  cases roundBit with
  | false =>
    left
    cases stickyBit <;> rfl
  | true =>
    cases stickyBit with
    | true => exact .inr ⟨rfl, by simp⟩
    | false =>
      -- a tie goes to the even neighbour
      show mantissa + mantissa % 2 = mantissa ∨ mantissa + mantissa % 2 = mantissa + 1 ∧ _
      simp
      omega

/-- Rounding does not go below the quotient. -/
theorem le_rounded (h : IsQuotient em m k) : m / 2 ^ k ≤ em.roundedMantissa := by
  rw [← h.mantissa_eq]
  rcases h.rounded_cases with heq | ⟨heq, -⟩ <;> omega

/-- Rounding does not go beyond an integer that is at least the quotient. -/
theorem rounded_le (h : IsQuotient em m k) {n : ℕ} (hn : m ≤ n * 2 ^ k) : em.roundedMantissa ≤ n := by
  have hle : em.mantissa ≤ n := by
    rw [h.mantissa_eq]
    exact Nat.div_le_of_le_mul (Nat.mul_comm n _ ▸ hn)
  rcases h.rounded_cases with heq | ⟨heq, hdvd⟩
  · rw [heq]
    exact hle
  · have hne : em.mantissa ≠ n := by
      intro hmantissa
      have hback : n * 2 ^ k ≤ m := by
        rw [← hmantissa, h.mantissa_eq]
        exact Nat.div_mul_le_self m _
      exact hdvd ⟨n, by rw [Nat.mul_comm]; exact le_antisymm hn hback⟩
    omega

end IsQuotient

/-! ### Large natural numbers -/

section

variable {n t : ℕ}

/-- The first shift of a natural number of `t + 53` bits, which the conversion to a double has moved up by 53
places, leaves 53 bits. -/
theorem shiftToTargetExponent_natCast (hlog : n.log2 = t + 52) :
    shiftToTargetExponent .binary64 (n * 2 ^ 53) (-53) .exact =
      ((⟨n * 2 ^ 53, false, false⟩ : ExtendedMantissa) >>> (t + 53), (t : ℤ)) := by
  have hn : n ≠ 0 := by
    rintro rfl
    simp at hlog
  have htarget : Format.binary64.targetExponent (totalExponent (n * 2 ^ 53) (-53)) = t := by
    unfold totalExponent
    rw [log2_mul_two_pow hn, hlog]
    show max (((t + 52 + 53 : ℕ) : ℤ) + 1 + -53 - (53 : ℕ)) (-1074) = t
    omega
  have hamount : ((t : ℤ) - -53).toNat = t + 53 := by omega
  unfold shiftToTargetExponent shiftToExponent
  simp only [htarget, hamount]
  refine Prod.ext rfl ?_
  show (-53 : ℤ) + (t + 53 : ℕ) = t
  omega

/-- Rounding may carry into a 54th bit, which a second shift takes back. -/
theorem Parts.exists_carried {r : ℕ} (hnormal : 2 ^ 52 ≤ r) (hr : r ≤ 2 ^ 53) (ht : t < 971) :
    ∃ (p : Parts) (k : ℕ), p.Canonical ∧ p.negative = false ∧ 0 < p.significand ∧
      r = p.significand * 2 ^ k ∧ (t : ℤ) = p.exponent - k := by
  rcases hr.lt_or_eq with hlt | rfl
  · refine ⟨⟨false, r, t⟩, 0, ⟨hlt, ?_, ?_, .inr hnormal⟩, rfl, ?_, by simp, by simp⟩
    · show (-1074 : ℤ) ≤ t
      omega
    · show (t : ℤ) ≤ 971
      omega
    · exact (Nat.two_pow_pos 52).trans_le hnormal
  · refine ⟨⟨false, 2 ^ 52, t + 1⟩, 1, ⟨by simp, ?_, ?_, .inr le_rfl⟩, rfl, by simp, rfl, by simp⟩
    · show (-1074 : ℤ) ≤ t + 1
      omega
    · show (t : ℤ) + 1 ≤ 971
      omega

/-- A natural number of `t + 53` bits is rounded to a multiple of `2 ^ t`, but not beyond any such multiple
that is at least as large. -/
theorem exists_roundWithAccuracy (hlog : n.log2 = t + 52) (ht : t < 971) :
    ∃ p : Parts, p.Canonical ∧ p.negative = false ∧
      roundWithAccuracy .binary64 .positive (n * 2 ^ 53) (-53) .exact = p.unpacked ∧
      ∀ m : ℕ, n ≤ m * 2 ^ t → p.magnitude ≤ (m : ℚ) * 2 ^ t := by
  have hlow : 2 ^ 52 * 2 ^ (t + 53) ≤ n * 2 ^ 53 := by
    have hn : n ≠ 0 := by
      rintro rfl
      simp at hlog
    have hself := Nat.log2_self_le hn
    rw [hlog] at hself
    calc 2 ^ 52 * 2 ^ (t + 53) = 2 ^ (t + 52) * 2 ^ 53 := by ring
      _ ≤ n * 2 ^ 53 := Nat.mul_le_mul_right _ hself
  have hhigh : n ≤ 2 ^ 53 * 2 ^ t := by
    have hself := Nat.lt_log2_self (n := n)
    rw [hlog] at hself
    calc n ≤ 2 ^ (t + 52 + 1) := hself.le
      _ = 2 ^ 53 * 2 ^ t := by ring
  have hquotient := IsQuotient.shiftRight (n * 2 ^ 53) (t + 53)
  have hfirst := shiftToTargetExponent_natCast hlog
  generalize (⟨n * 2 ^ 53, false, false⟩ : ExtendedMantissa) >>> (t + 53) = em at hquotient hfirst
  have hnormal : 2 ^ 52 ≤ em.roundedMantissa :=
    ((Nat.le_div_iff_mul_le (Nat.two_pow_pos _)).2 hlow).trans hquotient.le_rounded
  have hmultiple : ∀ m : ℕ, n ≤ m * 2 ^ t → em.roundedMantissa ≤ m := by
    intro m hm
    refine hquotient.rounded_le ?_
    rw [pow_add, ← mul_assoc]
    exact Nat.mul_le_mul_right _ hm
  obtain ⟨p, k, hp, hnegative, hpos, hrounded, hexponent⟩ :=
    Parts.exists_carried hnormal (hmultiple _ hhigh) ht
  refine ⟨p, hp, hnegative, ?_, fun m hm => ?_⟩
  · have hsign : p.sign = .positive := by
      rw [Parts.sign, hnegative]
      rfl
    rw [← hsign]
    exact roundWithAccuracy_of_shift hp hpos hfirst hrounded hexponent
  · rw [Parts.magnitude_carried hrounded hexponent, zpow_natCast]
    exact mul_le_mul_of_nonneg_right (mod_cast hmultiple m hm) (by positivity)

theorem mul_finite (spec : Format) (s s' : Sign) (m m' : ℕ) (e e' : ℤ) (hm : 0 < m) (hm' : 0 < m') :
    UnpackedFloat.mul spec (.finite s m e hm) (.finite s' m' e' hm') =
      roundWithAccuracy spec (s * s') (m * m') (e + e') .exact :=
  rfl

/-- From `2 ^ 53` on, a natural number is converted by rounding. -/
theorem ofNat_eq_rounded (h : 2 ^ 53 ≤ n) :
    Float.ofNat n =
      .ofModel (.pack (roundWithAccuracy .binary64 .positive (n * 2 ^ 53) (-53) .exact)) := by
  have hn : n ≠ 0 := (lt_of_lt_of_le (Nat.two_pow_pos 53) h).ne'
  have hlarge : ¬(n < 2 ^ 53 ∧ 0 ≤ 22) := fun hsmall => absurd hsmall.1 h.not_gt
  have hlow : ¬((0 : ℤ) < -(2 ^ Format.binary64.exponentBits + (n.log2 : ℤ))) := by
    have hpow : (0 : ℤ) < 2 ^ Format.binary64.exponentBits := by positivity
    omega
  show Float.ofScientific n false 0 = _
  unfold Float.ofScientific
  rw [dif_neg hlarge]
  show Float.ofModel (.pack (UnpackedFloat.ofScientific .binary64 n 0)) = _
  unfold UnpackedFloat.ofScientific
  rw [dif_neg hn, if_neg (by decide), if_neg hlow, if_pos le_rfl, mul_finite, Int.toNat_zero, pow_zero,
    mul_one, add_zero, Nat.shiftLeft_eq]
  rfl

end

/-- Parts that are at least as large as a number of `t + 53` bits are a multiple of `2 ^ t`. -/
theorem Parts.exists_multiple {p : Parts} (hp : p.Canonical) {n t : ℕ} (hlow : 2 ^ (t + 52) ≤ n)
    (hle : (n : ℚ) ≤ p.magnitude) : ∃ m : ℕ, p.magnitude = (m : ℚ) * 2 ^ t := by
  have hexponent : (t : ℤ) ≤ p.exponent := by
    by_contra hlt
    have hsmall : p.magnitude < 2 ^ (t + 52) := by
      have hsignificand : (p.significand : ℚ) < 2 ^ (53 : ℤ) := mod_cast hp.significand_lt
      calc p.magnitude < 2 ^ (53 : ℤ) * 2 ^ p.exponent := by
            unfold magnitude
            exact mul_lt_mul_of_pos_right hsignificand (by positivity)
        _ = 2 ^ (53 + p.exponent) := (zpow_add₀ two_ne_zero _ _).symm
        _ ≤ 2 ^ ((t + 52 : ℕ) : ℤ) := zpow_le_zpow_right₀ one_le_two (by omega)
        _ = 2 ^ (t + 52) := zpow_natCast _ _
    have hlow' : (2 : ℚ) ^ (t + 52) ≤ n := mod_cast hlow
    exact absurd (hlow'.trans hle) (not_le.2 hsmall)
  obtain ⟨k, hk⟩ := Int.eq_ofNat_of_zero_le (sub_nonneg.2 hexponent)
  have hcarried : p.magnitude = ((p.significand * 2 ^ k : ℕ) : ℚ) * 2 ^ (t : ℤ) :=
    magnitude_carried rfl (by omega)
  rw [zpow_natCast] at hcarried
  exact ⟨_, hcarried⟩

/-- From `2 ^ 53` on, the double of a natural number below `2 ^ 63` is the number rounded. -/
theorem exists_ofNat_eq {n : ℕ} (hlarge : 2 ^ 53 ≤ n) (h : n < 2 ^ 63) :
    ∃ (p : Parts) (t : ℕ), p.Canonical ∧ p.negative = false ∧ Float.ofNat n = ofCanonical p ∧
      2 ^ (t + 52) ≤ n ∧ ∀ m : ℕ, n ≤ m * 2 ^ t → p.magnitude ≤ (m : ℚ) * 2 ^ t := by
  have hn : n ≠ 0 := (lt_of_lt_of_le (Nat.two_pow_pos 53) hlarge).ne'
  have hlow : 53 ≤ n.log2 := (Nat.le_log2 hn).2 hlarge
  have hhigh : n.log2 < 63 := (Nat.log2_lt hn).2 h
  obtain ⟨t, ht⟩ : ∃ t, n.log2 = t + 52 := ⟨n.log2 - 52, by omega⟩
  obtain ⟨p, hp, hnegative, hround, hmultiple⟩ := exists_roundWithAccuracy ht (by omega)
  refine ⟨p, t, hp, hnegative, ?_, ht ▸ Nat.log2_self_le hn, hmultiple⟩
  rw [ofNat_eq_rounded hlarge, hround]
  rfl

theorem isFinite_ofNat_of_lt {n : ℕ} (h : n < 2 ^ 63) : (Float.ofNat n).isFinite = true := by
  rcases lt_or_ge n (2 ^ 53) with hsmall | hlarge
  · exact isFinite_ofNat hsmall
  · obtain ⟨p, t, hp, -, heq, -⟩ := exists_ofNat_eq hlarge h
    rw [heq]
    exact isFinite_ofCanonical hp

/-- The double of a natural number is at most every double that is at least this number. -/
theorem value_ofNat_le {n : ℕ} (h : n < 2 ^ 63) {x : Float} (hx : x.isFinite) (hle : (n : ℚ) ≤ value x) :
    value (Float.ofNat n) ≤ value x := by
  rcases lt_or_ge n (2 ^ 53) with hsmall | hlarge
  · rw [value_ofNat hsmall]
    exact hle
  · obtain ⟨p, t, hp, hnegative, heq, hlow, hmultiple⟩ := exists_ofNat_eq hlarge h
    have hvalue : value x = (parts x).magnitude := by
      rw [← (parts x).abs_value]
      exact (abs_of_nonneg ((Nat.cast_nonneg n).trans hle)).symm
    rw [hvalue] at hle ⊢
    obtain ⟨m, hm⟩ := Parts.exists_multiple (unpack_of_isFinite hx).1 hlow hle
    rw [hm] at hle ⊢
    rw [heq, value_ofCanonical hp, Parts.value_of_not_negative hnegative]
    exact hmultiple m (mod_cast hle)

end HostExpr.Number
