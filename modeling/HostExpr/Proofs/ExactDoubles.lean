import HostExpr.Proofs.DoubleValue

/-!
# Doubles with given parts

Parts that fit a double are put together to the double with their value, and natural numbers below
`2 ^ 53` become doubles with their value.  Nothing is rounded on the way.

* `Number.Parts.Fits`, `Number.Parts.normalize`: parts whose value is a double, and the canonical parts of
  the same value;
* `Number.Parts.encode`: the 64 bits of canonical parts, with `Number.Parts.ofBits_encode`;
* `Number.ofCanonical`, with `Number.parts_ofCanonical`: packing canonical parts loses nothing;
* `Number.eq_of_value`: a finite double is determined by its value and its sign;
* `Number.roundWithAccuracy_exact`: rounding keeps what fits;
* `Number.ofParts_eq`, `Number.ofNat_eq`: the doubles put together from parts and from natural numbers;
* `Number.value_abs`, `Number.value_neg`, `Number.ofInt_exact`: signs, and integers.
-/

namespace HostExpr.Number

open Float.Model Float.Model.UnpackedFloat

namespace Parts

/-! ### Bits of canonical parts -/

/-- The exponent field of canonical parts; it is zero if the top bit of the significand is not set. -/
def biased (p : Parts) : ℕ :=
  if p.significand < 2 ^ 52 then 0 else (p.exponent + 1075).toNat

/-- The bits of canonical parts, as a number: sign, exponent field, and the significand without its top
bit. -/
def encode (p : Parts) : ℕ :=
  if p.negative then 2 ^ 63 + (p.biased * 2 ^ 52 + p.significand % 2 ^ 52)
  else p.biased * 2 ^ 52 + p.significand % 2 ^ 52

variable {p : Parts}

theorem biased_lt (hp : p.Canonical) : p.biased < 2047 := by
  have := hp.exponent_le
  unfold biased
  split <;> omega

theorem encode_field (hp : p.Canonical) : p.encode / 2 ^ 52 % 2 ^ 11 = p.biased := by
  have hb := biased_lt hp
  unfold encode
  split <;> omega

theorem encode_fraction : p.encode % 2 ^ 52 = p.significand % 2 ^ 52 := by
  unfold encode
  split <;> omega

theorem encode_sign (hp : p.Canonical) : 2 ^ 63 ≤ p.encode ↔ p.negative = true := by
  have hb := biased_lt hp
  unfold encode
  split
  · next h => exact iff_of_true (Nat.le_add_right ..) h
  · next h => exact iff_of_false (by omega) h

theorem encode_lt (hp : p.Canonical) : p.encode < 2 ^ 64 := by
  have hb := biased_lt hp
  unfold encode
  split <;> omega

theorem ofBits_encode (hp : p.Canonical) : ofBits p.encode = p := by
  have hfield := encode_field hp
  have hsign : decide (2 ^ 63 ≤ p.encode) = p.negative := by
    rw [Bool.eq_iff_iff, decide_eq_true_iff, encode_sign hp]
  have hlt := hp.significand_lt
  have hle := hp.le_exponent
  have hfraction := encode_fraction (p := p)
  by_cases h : p.significand < 2 ^ 52
  · have hzero : p.biased = 0 := if_pos h
    have hexponent : -1074 = p.exponent := (hp.normal.resolve_right (Nat.not_le_of_lt h)).symm
    rw [ofBits_of_zero (hfield.trans hzero), hsign, hfraction, Nat.mod_eq_of_lt h, hexponent]
  · have hbiased : p.biased = (p.exponent + 1075).toNat := if_neg h
    have hsignificand : 2 ^ 52 + p.significand % 2 ^ 52 = p.significand := by omega
    have hexponent : (p.biased : ℤ) - 1075 = p.exponent := by omega
    rw [ofBits_of_ne_zero (by omega), hsign, hfraction, hfield, hsignificand, hexponent]

theorem encode_ofBits {bits : ℕ} (hlt : bits < 2 ^ 64) :
    (ofBits bits).encode = bits := by
  have hfraction : bits % 2 ^ 52 < 2 ^ 52 := Nat.mod_lt _ (Nat.two_pow_pos 52)
  have hfields : bits = bits / 2 ^ 63 * 2 ^ 63 + (bits / 2 ^ 52 % 2 ^ 11 * 2 ^ 52 + bits % 2 ^ 52) := by
    omega
  have hrest : (ofBits bits).biased = bits / 2 ^ 52 % 2 ^ 11 ∧
      (ofBits bits).significand % 2 ^ 52 = bits % 2 ^ 52 := by
    unfold biased
    by_cases hzero : bits / 2 ^ 52 % 2 ^ 11 = 0
    · rw [ofBits_of_zero hzero]
      exact ⟨(if_pos hfraction).trans hzero.symm, Nat.mod_mod ..⟩
    · rw [ofBits_of_ne_zero hzero]
      refine ⟨(if_neg (by simp)).trans ?_, by simp⟩
      show ((bits / 2 ^ 52 % 2 ^ 11 : ℕ) - 1075 + 1075 : ℤ).toNat = _
      rw [sub_add_cancel, Int.toNat_natCast]
  unfold encode
  rw [negative_ofBits, hrest.1, hrest.2]
  by_cases hsign : 2 ^ 63 ≤ bits
  · have hone : bits / 2 ^ 63 = 1 := by omega
    rw [if_pos (decide_eq_true hsign)]
    rw [hone, one_mul] at hfields
    exact hfields.symm
  · have hzero : bits / 2 ^ 63 = 0 := by omega
    rw [if_neg (ne_true_of_eq_false (decide_eq_false hsign))]
    rw [hzero, zero_mul, zero_add] at hfields
    exact hfields.symm

/-- Canonical parts are determined by their value and their sign. -/
theorem Canonical.ext {p q : Parts} (hp : p.Canonical) (hq : q.Canonical) (hvalue : p.value = q.value)
    (hnegative : p.negative = q.negative) : p = q := by
  have hmagnitude : p.magnitude = q.magnitude := by
    rw [← p.abs_value, hvalue, q.abs_value]
  have hcompare := compare_then_compare hp hq
  rw [hmagnitude, cmp_self_eq_eq, Ordering.then_eq_eq, compare_eq_iff_eq, compare_eq_iff_eq] at hcompare
  obtain ⟨negative, significand, exponent⟩ := p
  obtain ⟨rfl, rfl⟩ := hcompare
  obtain rfl := hnegative
  rfl

/-! ### Canonical parts of the same value -/

/-- Parts whose value is a double: the significand fits 53 bits and the exponent is within range. -/
structure Fits (p : Parts) : Prop where
  significand_lt : p.significand < 2 ^ 53
  le_exponent : -1074 ≤ p.exponent
  exponent_le : p.exponent ≤ 971

/-- How far the significand can be shifted up. -/
def shift (p : Parts) : ℕ :=
  min (52 - p.significand.log2) (p.exponent + 1074).toNat

/-- The canonical parts of the same value. -/
def normalize (p : Parts) : Parts :=
  if p.significand = 0 then ⟨p.negative, 0, -1074⟩
  else ⟨p.negative, p.significand * 2 ^ p.shift, p.exponent - p.shift⟩

theorem fits_natCast {n : ℕ} {negative : Bool} (h : n < 2 ^ 53) : Fits ⟨negative, n, 0⟩ :=
  ⟨h, neg_nonpos.2 (by decide), Int.natCast_nonneg 971⟩

theorem negative_normalize (p : Parts) : p.normalize.negative = p.negative := by
  unfold normalize
  split <;> rfl

theorem significand_shift_bounds (h : p.significand ≠ 0) (hp : p.Fits) :
    2 ^ (p.significand.log2 + p.shift) ≤ p.significand * 2 ^ p.shift ∧
      p.significand * 2 ^ p.shift < 2 ^ 53 := by
  have hlow := Nat.log2_self_le h
  have hhigh := Nat.lt_log2_self (n := p.significand)
  have hlog : p.significand.log2 < 53 := (Nat.log2_lt h).2 hp.significand_lt
  have hshift : p.significand.log2 + 1 + p.shift ≤ 53 := by
    unfold shift
    omega
  constructor
  · rw [pow_add]
    exact Nat.mul_le_mul_right _ hlow
  · calc p.significand * 2 ^ p.shift
      _ < 2 ^ (p.significand.log2 + 1) * 2 ^ p.shift :=
        Nat.mul_lt_mul_of_pos_right hhigh (Nat.two_pow_pos _)
      _ = 2 ^ (p.significand.log2 + 1 + p.shift) := (pow_add ..).symm
      _ ≤ 2 ^ 53 := Nat.pow_le_pow_right two_pos hshift

theorem canonical_normalize (hp : p.Fits) : p.normalize.Canonical := by
  have hle := hp.le_exponent
  have hge := hp.exponent_le
  unfold normalize
  split
  · exact ⟨Nat.two_pow_pos _, le_rfl, show (-1074 : ℤ) ≤ 971 by decide, .inl rfl⟩
  · next h =>
    obtain ⟨hlow, hhigh⟩ := significand_shift_bounds h hp
    have hshift : p.shift = 52 - p.significand.log2 ∨ (p.shift : ℤ) = p.exponent + 1074 := by
      unfold shift
      omega
    have hshift' : (p.shift : ℤ) ≤ p.exponent + 1074 := by
      unfold shift
      omega
    refine ⟨hhigh, ?_, ?_, ?_⟩
    · show -1074 ≤ p.exponent - p.shift
      omega
    · show p.exponent - p.shift ≤ 971
      omega
    · show p.exponent - p.shift = -1074 ∨ 2 ^ 52 ≤ p.significand * 2 ^ p.shift
      refine hshift.symm.imp (fun h => by omega) fun h => le_trans ?_ hlow
      exact Nat.pow_le_pow_right two_pos (by omega)

theorem canonical_natCast {n : ℕ} {negative : Bool} (h : n < 2 ^ 53) :
    (normalize ⟨negative, n, 0⟩).Canonical :=
  canonical_normalize (fits_natCast h)

theorem value_normalize (p : Parts) : p.normalize.value = p.value := by
  unfold value
  rw [negative_normalize]
  have hmagnitude : p.normalize.magnitude = p.magnitude := by
    unfold normalize magnitude
    split
    · next h => simp [h]
    · rw [Nat.cast_mul, Nat.cast_pow, Nat.cast_ofNat, mul_assoc, ← zpow_natCast,
        ← zpow_add₀ two_ne_zero, add_sub_cancel]
  rw [hmagnitude]

end Parts

/-! ### Packing -/

theorem sign_toBitVec (p : Parts) : p.sign.toBitVec.toNat = if p.negative then 1 else 0 := by
  unfold Parts.sign
  cases p.negative <;> rfl

theorem toNat_packComponents (s : Sign) (e : BitVec Format.binary64.exponentBits)
    (m : BitVec Format.binary64.mantissaBitsWithoutImplicit) :
    (packComponents .binary64 s e m).toNat =
      s.toBitVec.toNat * 2 ^ 63 + (e.toNat * 2 ^ 52 + m.toNat) := by
  have he : e.toNat < 2 ^ 11 := e.isLt
  have hm : m.toNat < 2 ^ 52 := m.isLt
  unfold packComponents
  rw [BitVec.toNat_append, ← Nat.shiftLeft_add_eq_or_of_lt hm, BitVec.toNat_append,
    ← Nat.shiftLeft_add_eq_or_of_lt he, Nat.shiftLeft_eq, Nat.shiftLeft_eq]
  omega

theorem toNat_pack {p : Parts} (hp : p.Canonical) :
    (p.unpacked.pack .binary64).toNat = p.encode := by
  have hb := p.biased_lt hp
  have hle := hp.le_exponent
  have hge := hp.exponent_le
  have hencode : p.encode =
      p.sign.toBitVec.toNat * 2 ^ 63 + (p.biased * 2 ^ 52 + p.significand % 2 ^ 52) := by
    rw [sign_toBitVec]
    unfold Parts.encode
    split <;> omega
  rw [hencode]
  rcases p.significand.eq_zero_or_pos with h | h
  · have hbiased : p.biased = 0 := if_pos (h ▸ Nat.two_pow_pos 52)
    rw [Parts.unpacked_of_zero h, hbiased, h]
    exact toNat_packComponents p.sign 0#_ 0#_
  · have hlog : p.significand.log2 + 1 = 53 ↔ ¬ p.significand < 2 ^ 52 := by
      have hlt : p.significand.log2 < 53 := (Nat.log2_lt h.ne').2 hp.significand_lt
      rw [← Nat.log2_lt h.ne']
      omega
    have hrange : ¬ 2 ^ 11 ≤ (p.exponent + (1023 : ℕ) + (52 : ℕ)).toNat + 1 := by omega
    rw [Parts.unpacked_of_pos h]
    unfold UnpackedFloat.pack
    show (if 2 ^ 11 ≤ (p.exponent + (1023 : ℕ) + (52 : ℕ)).toNat + 1 then _
      else if p.significand.log2 + 1 = 53 then _ else _ : BitVec _).toNat = _
    rw [if_neg hrange]
    by_cases hnormal : p.significand < 2 ^ 52
    · rw [if_neg (not_not_intro hnormal ∘ hlog.1), toNat_packComponents, BitVec.toNat_ofNat]
      have hbiased : p.biased = 0 := if_pos hnormal
      rw [hbiased]
      rfl
    · rw [if_pos (hlog.2 hnormal), toNat_packComponents, BitVec.toNat_ofNat, BitVec.toNat_ofNat]
      have hbiased : p.biased = (p.exponent + 1075).toNat := if_neg hnormal
      have hfield : (p.exponent + (1023 : ℕ) + (52 : ℕ)).toNat % 2 ^ 11 = p.biased := by omega
      exact congrArg (fun n => p.sign.toBitVec.toNat * 2 ^ 63 + (n * 2 ^ 52 + p.significand % 2 ^ 52))
        hfield

/-- Bits that encode canonical parts unpack to these parts. -/
theorem unpack_encode {p : Parts} (hp : p.Canonical) {b : BitVec Format.binary64.numBits}
    (h : b.toNat = p.encode) : UnpackedFloat.unpack .binary64 b = p.unpacked := by
  have hfield := p.encode_field hp
  have hb := p.biased_lt hp
  rw [unpack_of_not_ones, h, Parts.ofBits_encode hp]
  rw [h]
  omega

/-- The double with canonical parts. -/
def ofCanonical (p : Parts) : Float :=
  .ofModel (.pack p.unpacked)

section

variable {p : Parts} (hp : p.Canonical)

include hp

theorem unpack_ofCanonical : (ofCanonical p).toModel.unpack = p.unpacked :=
  unpack_encode hp (toNat_pack hp)

theorem parts_ofCanonical : parts (ofCanonical p) = p := by
  have hbits : (ofCanonical p).toBits.toNat = p.encode := toNat_pack hp
  show Parts.ofBits (ofCanonical p).toBits.toNat = p
  rw [hbits, Parts.ofBits_encode hp]

theorem isFinite_ofCanonical : (ofCanonical p).isFinite = true := by
  show (ofCanonical p).toModel.unpack.isFinite = true
  rw [unpack_ofCanonical hp]
  rcases unpacked_eq_zero_or_finite p with ⟨_, h⟩ | ⟨_, _, _, _, h⟩ <;> rw [h] <;> rfl

theorem ofBits_encode : Float.ofBits (UInt64.ofNat p.encode) = ofCanonical p := by
  have hbits : (UInt64.ofNat p.encode).toBitVec.toNat = p.encode :=
    Nat.mod_eq_of_lt (p.encode_lt hp)
  show Float.ofModel (.pack (UnpackedFloat.unpack .binary64 (UInt64.ofNat p.encode).toBitVec)) = _
  rw [unpack_encode hp hbits]
  rfl

end

theorem value_ofCanonical {p : Parts} (hp : p.Canonical) : value (ofCanonical p) = p.value := by
  rw [value, parts_ofCanonical hp]

/-- A finite double is put together from its parts. -/
theorem ofCanonical_parts {x : Float} (h : x.isFinite) : ofCanonical (parts x) = x := by
  have hlt : x.toBits.toBitVec.toNat < 2 ^ 64 := x.toBits.toBitVec.isLt
  have hbits : (ofCanonical (parts x)).toBits = x.toBits := by
    refine UInt64.toNat_inj.1 ?_
    exact (toNat_pack (unpack_of_isFinite h).1).trans (Parts.encode_ofBits hlt)
  obtain ⟨⟨bits, _⟩⟩ := x
  exact congrArg Float.ofModel (Float.Model.mk.injEq .. ▸ hbits)

/-- A finite double is determined by its value and its sign. -/
theorem eq_of_value {x y : Float} (hx : x.isFinite) (hy : y.isFinite) (hvalue : value x = value y)
    (hnegative : (parts x).negative = (parts y).negative) : x = y := by
  rw [← ofCanonical_parts hx, ← ofCanonical_parts hy,
    (unpack_of_isFinite hx).1.ext (unpack_of_isFinite hy).1 hvalue hnegative]

/-! ### Doubles put together from parts -/

theorem ofParts_eq {p : Parts} (hp : p.Fits) : ofParts p = ofCanonical p.normalize := by
  rw [← ofBits_encode (p.canonical_normalize hp)]
  unfold ofParts Parts.encode
  rw [p.negative_normalize]
  by_cases h : p.significand = 0
  · rw [if_pos h, Parts.normalize, if_pos h]
    cases p.negative <;> rfl
  · rw [if_neg h, Parts.normalize, if_neg h]
    rfl

/-! ### Rounding -/

theorem shiftRight_exact (m k : ℕ) :
    (⟨m * 2 ^ k, false, false⟩ : ExtendedMantissa) >>> k = ⟨m, false, false⟩ := by
  show Nat.repeat ExtendedMantissa.shiftRightOne k ⟨m * 2 ^ k, false, false⟩ = ⟨m, false, false⟩
  induction k generalizing m with
  | zero => simp [Nat.repeat]
  | succ k ih =>
    rw [Nat.repeat, pow_succ', ← mul_assoc, ih]
    simp [ExtendedMantissa.shiftRightOne]

theorem log2_mul_two_pow {n : ℕ} (h : n ≠ 0) (k : ℕ) : (n * 2 ^ k).log2 = n.log2 + k := by
  refine (Nat.log2_eq_iff (Nat.mul_ne_zero h (Nat.two_pow_pos k).ne')).2 ⟨?_, ?_⟩
  · rw [pow_add]
    exact Nat.mul_le_mul_right _ (Nat.log2_self_le h)
  · rw [add_right_comm, pow_add]
    exact Nat.mul_lt_mul_of_pos_right Nat.lt_log2_self (Nat.two_pow_pos k)

theorem targetExponent_eq {p : Parts} (hp : p.Canonical) (h : 0 < p.significand) (k : ℕ) :
    Format.binary64.targetExponent (totalExponent (p.significand * 2 ^ k) (p.exponent - k)) =
      p.exponent := by
  have hbound : p.significand.log2 < 53 := (Nat.log2_lt h.ne').2 hp.significand_lt
  have hnormal : p.exponent = -1074 ∨ 52 ≤ p.significand.log2 :=
    hp.normal.imp_right (Nat.le_log2 h.ne').2
  have hle := hp.le_exponent
  unfold totalExponent
  rw [log2_mul_two_pow h.ne']
  show max (((p.significand.log2 + k : ℕ) : ℤ) + 1 + (p.exponent - k) - (53 : ℕ)) (-1074) = p.exponent
  omega

/-- What fits is shifted back to its exponent without a loss. -/
theorem shiftToTargetExponent_exact {p : Parts} (hp : p.Canonical) (h : 0 < p.significand) (k : ℕ) :
    shiftToTargetExponent .binary64 (p.significand * 2 ^ k) (p.exponent - k) .exact =
      (⟨p.significand, false, false⟩, p.exponent) := by
  unfold shiftToTargetExponent shiftToExponent
  simp only [targetExponent_eq hp h]
  have hamount : (p.exponent - (p.exponent - k)).toNat = k := by omega
  rw [hamount]
  exact Prod.ext (shiftRight_exact ..) (sub_add_cancel ..)

/-- Rounding comes to canonical parts if the first shift and rounding do, up to a shift. -/
theorem roundWithAccuracy_of_shift {p : Parts} (hp : p.Canonical) (h : 0 < p.significand) {m k : ℕ}
    {e e' : ℤ} {accuracy : Accuracy} {em : ExtendedMantissa}
    (hshift : shiftToTargetExponent .binary64 m e accuracy = (em, e'))
    (hrounded : em.roundedMantissa = p.significand * 2 ^ k) (hexponent : e' = p.exponent - k) :
    roundWithAccuracy .binary64 p.sign m e accuracy = p.unpacked := by
  unfold roundWithAccuracy
  simp only [hshift, hrounded, hexponent, shiftToTargetExponent_exact hp h]
  rw [dif_neg h.ne', Parts.unpacked_of_pos h]

/-- Rounding keeps the value of what fits. -/
theorem roundWithAccuracy_exact {p : Parts} (hp : p.Canonical) (h : 0 < p.significand) (k : ℕ) :
    roundWithAccuracy .binary64 p.sign (p.significand * 2 ^ k) (p.exponent - k) .exact =
      p.unpacked := by
  refine roundWithAccuracy_of_shift (k := 0) hp h (shiftToTargetExponent_exact hp h k) ?_ ?_
  · rw [pow_zero, mul_one]
    rfl
  · rw [Nat.cast_zero, sub_zero]

/-- Rounding a natural number that fits gives its canonical parts. -/
theorem round_natCast {n : ℕ} (h : n < 2 ^ 53) :
    UnpackedFloat.ofNat .binary64 n = (Parts.normalize ⟨false, n, 0⟩).unpacked := by
  have hcanonical : (Parts.normalize ⟨false, n, 0⟩).Canonical := Parts.canonical_natCast h
  rcases n.eq_zero_or_pos with rfl | hpos
  · rfl
  · have hlog : n.log2 < 53 := (Nat.log2_lt hpos.ne').2 h
    have hshift : Parts.shift ⟨false, n, 0⟩ = 52 - n.log2 := by
      show min (52 - n.log2) 1074 = 52 - n.log2
      omega
    have hnormalize : Parts.normalize ⟨false, n, 0⟩ =
        ⟨false, n * 2 ^ (52 - n.log2), 0 - (52 - n.log2 : ℕ)⟩ := by
      rw [Parts.normalize, if_neg hpos.ne', hshift]
    have htarget : Format.binary64.targetExponent (totalExponent n 0) = n.log2 - 52 := by
      show max ((n.log2 : ℤ) + 1 + 0 - (53 : ℕ)) (-1074) = _
      omega
    have hamount : (0 - ((n.log2 : ℤ) - 52)).toNat = 52 - n.log2 := by omega
    have hexact := roundWithAccuracy_exact hcanonical
      (by rw [hnormalize]; exact Nat.mul_pos hpos (Nat.two_pow_pos _)) 0
    unfold UnpackedFloat.ofNat UnpackedFloat.ofInt UnpackedFloat.normalize
    rw [compare_gt_iff_gt.2 (Int.natCast_pos.2 hpos)]
    unfold UnpackedFloat.round decreaseExponent
    simp only [Int.toNat_natCast, htarget, hamount, Nat.shiftLeft_eq]
    rw [pow_zero, mul_one, Nat.cast_zero, sub_zero] at hexact
    rw [← hexact, hnormalize]
    rfl

/-- A product with one, whose significand is shifted all the way up, keeps what fits. -/
theorem unpacked_mul_one {p : Parts} (hp : p.Canonical) (hsign : p.sign = .positive) :
    UnpackedFloat.mul .binary64 p.unpacked (.finite .positive (2 ^ 52) (-52) (Nat.two_pow_pos 52)) =
      p.unpacked := by
  rcases p.significand.eq_zero_or_pos with h | h
  · rw [Parts.unpacked_of_zero h, hsign]
    rfl
  · have hexact := roundWithAccuracy_exact hp h 52
    rw [Parts.unpacked_of_pos h, hsign] at hexact ⊢
    exact hexact

theorem ofNat_eq {n : ℕ} (h : n < 2 ^ 53) :
    Float.ofNat n = ofCanonical (Parts.normalize ⟨false, n, 0⟩) := by
  have hcanonical : (Parts.normalize ⟨false, n, 0⟩).Canonical := Parts.canonical_natCast h
  have hsign : (Parts.normalize ⟨false, n, 0⟩).sign = .positive := by
    rw [Parts.sign, Parts.negative_normalize]
    rfl
  -- small numbers are converted as 64-bit words and multiplied by one
  have hfast : n < 2 ^ 53 ∧ 0 ≤ 22 := ⟨h, Nat.zero_le _⟩
  have hproduct : Float.ofNat n = n.toUInt64.toFloat * Float.ofBits 0x3FF0000000000000 := by
    show Float.ofScientific n false 0 = _
    unfold Float.ofScientific
    rw [dif_pos hfast]
    rfl
  have hone : (Float.ofBits 0x3FF0000000000000).toModel.unpack =
      .finite .positive (2 ^ 52) (-52) (Nat.two_pow_pos 52) := rfl
  have hword : n.toUInt64.toFloat = ofCanonical (Parts.normalize ⟨false, n, 0⟩) := by
    have hn : n.toUInt64.toNat = n := Nat.mod_eq_of_lt (h.trans (by decide))
    show Float.ofModel (.pack (UnpackedFloat.ofNat .binary64 n.toUInt64.toNat)) = _
    rw [hn, round_natCast h]
    rfl
  rw [hproduct, hword]
  show Float.ofModel (.pack (UnpackedFloat.mul .binary64 (ofCanonical _).toModel.unpack
    (Float.ofBits 0x3FF0000000000000).toModel.unpack)) = _
  rw [unpack_ofCanonical hcanonical, hone, unpacked_mul_one hcanonical hsign]
  rfl

/-! ### Signs -/

theorem abs_unpacked (p : Parts) :
    p.unpacked.abs = Parts.unpacked { p with negative := false } := by
  obtain ⟨negative, significand, exponent⟩ := p
  cases significand <;> rfl

theorem neg_unpacked (p : Parts) :
    p.unpacked.neg = Parts.unpacked { p with negative := !p.negative } := by
  obtain ⟨negative, significand, exponent⟩ := p
  cases negative <;> cases significand <;> rfl

section

variable {x : Float} (hx : x.isFinite)

include hx

theorem abs_eq : x.abs = ofCanonical { parts x with negative := false } := by
  show Float.ofModel (.pack x.toModel.unpack.abs) = _
  rw [(unpack_of_isFinite hx).2.1, abs_unpacked]
  rfl

theorem neg_eq : -x = ofCanonical { parts x with negative := !(parts x).negative } := by
  show Float.ofModel (.pack x.toModel.unpack.neg) = _
  rw [(unpack_of_isFinite hx).2.1, neg_unpacked]
  rfl

theorem canonical_with (b : Bool) : Parts.Canonical { parts x with negative := b } := by
  obtain ⟨h₁, h₂, h₃, h₄⟩ := (unpack_of_isFinite hx).1
  exact ⟨h₁, h₂, h₃, h₄⟩

theorem isFinite_abs : x.abs.isFinite = true := by
  rw [abs_eq hx]
  exact isFinite_ofCanonical (canonical_with hx _)

theorem value_abs : value x.abs = |value x| := by
  rw [abs_eq hx, value_ofCanonical (canonical_with hx _), value, Parts.abs_value]
  rfl

theorem isFinite_neg : (-x).isFinite = true := by
  rw [neg_eq hx]
  exact isFinite_ofCanonical (canonical_with hx _)

theorem value_neg : value (-x) = -value x := by
  rw [neg_eq hx, value_ofCanonical (canonical_with hx _), value]
  unfold Parts.value
  cases (parts x).negative with
  | true => exact (neg_neg _).symm
  | false => rfl

end

/-! ### Integers -/

theorem isFinite_ofNat {n : ℕ} (h : n < 2 ^ 53) : (Float.ofNat n).isFinite = true := by
  rw [ofNat_eq h]
  exact isFinite_ofCanonical (Parts.canonical_natCast h)

theorem value_ofNat {n : ℕ} (h : n < 2 ^ 53) : value (Float.ofNat n) = n := by
  rw [ofNat_eq h, value_ofCanonical (Parts.canonical_natCast h), Parts.value_normalize,
    Parts.value_of_not_negative rfl]
  simp [Parts.magnitude]

/-- Integers below `2 ^ 53` are exact as doubles. -/
theorem ofInt_exact {n : ℤ} (h : |n| < 2 ^ 53) : (ofInt n).isFinite = true ∧ value (ofInt n) = n := by
  have hlt : n.natAbs < 2 ^ 53 := by
    rw [Int.abs_eq_natAbs] at h
    omega
  have hfinite := isFinite_ofNat hlt
  have hvalue := value_ofNat hlt
  unfold ofInt
  split
  · next hneg =>
    refine ⟨isFinite_neg hfinite, ?_⟩
    rw [value_neg hfinite, hvalue, Nat.cast_natAbs, abs_of_neg hneg]
    simp
  · next hnonneg =>
    refine ⟨hfinite, ?_⟩
    rw [hvalue, Nat.cast_natAbs, abs_of_nonneg (not_lt.1 hnonneg)]

end HostExpr.Number
