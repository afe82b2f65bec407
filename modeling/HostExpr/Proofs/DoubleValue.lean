import Mathlib
import HostExpr.Number.Double

/-!
# What doubles stand for

A double is a rational number, one of two infinities, or no number at all, and doubles are compared by
what they stand for.

* `Number.Parts.value`: the rational number that a sign, a significand and an exponent stand for;
* `Number.Parts.Canonical`, `Number.Parts.unpacked`: parts as the bits of a double hold them, and the
  unpacked float that they are;
* `Number.unpack_of_ones`, `Number.unpack_of_not_ones`: 64 bits are an infinity, no number, or canonical
  parts;
* `Number.compare_unpacked`: canonical parts are compared by their values;
* `Number.extended?`, with `Number.lt_iff_extended` and `Number.beq_iff_extended`: what a double is compared
  by;
* `Number.unpack_of_isFinite`, `Number.lt_iff_value`, `Number.beq_iff_value`: the same for finite doubles;
* `Number.isFinite_iff_extended`, `Number.isInf_of_not_isFinite`: which doubles are finite, and on which side
  of zero the infinite ones are.

The laws of the order and the equality of doubles (`Number.beq_symm`, `Number.beq_trans`,
`Number.beq_self_iff`) are then those of the rational numbers with two infinities.
-/

namespace HostExpr.Number

open Float.Model Float.Model.UnpackedFloat

/-! ### Parts and their values -/

namespace Parts

/-- The rational number `significand · 2 ^ exponent`. -/
def magnitude (p : Parts) : ℚ :=
  p.significand * 2 ^ p.exponent

/-- The rational number `±significand · 2 ^ exponent`. -/
def value (p : Parts) : ℚ :=
  if p.negative then -p.magnitude else p.magnitude

/-- Parts as the bits of a double hold them: the significand fits 53 bits, and it uses all of them unless
the exponent is the lowest. -/
structure Canonical (p : Parts) : Prop where
  significand_lt : p.significand < 2 ^ 53
  le_exponent : -1074 ≤ p.exponent
  exponent_le : p.exponent ≤ 971
  normal : p.exponent = -1074 ∨ 2 ^ 52 ≤ p.significand

/-- The sign of an unpacked float. -/
def sign (p : Parts) : Sign :=
  if p.negative then .negative else .positive

/-- The unpacked float with the given parts. -/
def unpacked (p : Parts) : UnpackedFloat :=
  if h : p.significand = 0 then .zero p.sign
  else .finite p.sign p.significand p.exponent (Nat.pos_of_ne_zero h)

/-- The parts that 64 bits hold. -/
def ofBits (bits : ℕ) : Parts :=
  let biased : ℕ := bits / Nat.pow 2 52 % Nat.pow 2 11
  let fraction : ℕ := bits % Nat.pow 2 52
  let negative := Nat.pow 2 63 ≤ bits
  if biased = 0 then ⟨negative, fraction, -1074⟩
  else ⟨negative, Nat.pow 2 52 + fraction, biased - 1075⟩

variable {p q : Parts}

theorem unpacked_of_zero (h : p.significand = 0) : p.unpacked = .zero p.sign :=
  dif_pos h

theorem unpacked_of_pos (h : 0 < p.significand) :
    p.unpacked = .finite p.sign p.significand p.exponent h :=
  dif_neg h.ne'

theorem magnitude_nonneg (p : Parts) : 0 ≤ p.magnitude := by
  unfold magnitude
  positivity

theorem magnitude_pos (h : 0 < p.significand) : 0 < p.magnitude := by
  unfold magnitude
  positivity

/-- A power of two moved from the exponent to the significand. -/
theorem magnitude_carried {r k : ℕ} {e : ℤ} (hr : r = p.significand * 2 ^ k) (he : e = p.exponent - k) :
    p.magnitude = (r : ℚ) * 2 ^ e := by
  have hsplit : p.exponent = (k : ℤ) + e := by omega
  unfold magnitude
  rw [hr, hsplit, zpow_add₀ two_ne_zero, zpow_natCast, Nat.cast_mul, Nat.cast_pow, Nat.cast_ofNat,
    mul_assoc]

theorem value_of_zero (h : p.significand = 0) : p.value = 0 := by
  simp [value, magnitude, h]

theorem value_of_not_negative (h : p.negative = false) : p.value = p.magnitude :=
  if_neg (ne_true_of_eq_false h)

theorem abs_value (p : Parts) : |p.value| = p.magnitude := by
  unfold value
  split
  · rw [abs_neg, abs_of_nonneg p.magnitude_nonneg]
  · rw [abs_of_nonneg p.magnitude_nonneg]

/-! ### Comparing canonical parts -/

/-- Of canonical parts those with the greater exponent have the greater magnitude. -/
theorem magnitude_lt (hp : p.Canonical) (hq : q.Canonical) (h : p.exponent < q.exponent) :
    p.magnitude < q.magnitude := by
  have hnormal : 2 ^ 52 ≤ q.significand :=
    hq.normal.resolve_left (ne_of_gt (lt_of_le_of_lt hp.le_exponent h))
  have hp' : (p.significand : ℚ) < 2 ^ 53 := by exact_mod_cast hp.significand_lt
  have hq' : (2 : ℚ) ^ 52 ≤ q.significand := by exact_mod_cast hnormal
  calc p.magnitude
    _ < 2 ^ 53 * 2 ^ p.exponent := mul_lt_mul_of_pos_right hp' (by positivity)
    _ = 2 ^ 52 * 2 ^ (p.exponent + 1) := by
      rw [zpow_add_one₀ two_ne_zero]
      ring
    _ ≤ 2 ^ 52 * 2 ^ q.exponent :=
      mul_le_mul_of_nonneg_left (zpow_le_zpow_right₀ one_le_two h) (by positivity)
    _ ≤ q.magnitude := mul_le_mul_of_nonneg_right hq' (by positivity)

/-- Exponents and then significands are compared like magnitudes. -/
theorem compare_then_compare (hp : p.Canonical) (hq : q.Canonical) :
    (compare p.exponent q.exponent).then (compare p.significand q.significand) =
      cmp p.magnitude q.magnitude := by
  rcases lt_trichotomy p.exponent q.exponent with h | h | h
  · rw [compare_lt_iff_lt.2 h, (cmp_eq_lt_iff _ _).2 (magnitude_lt hp hq h)]
    rfl
  · rw [compare_eq_iff_eq.2 h, Ordering.eq_then, ← cmp_eq_compare]
    unfold magnitude
    rw [h, cmp_mul_pos_right (by positivity), Nat.strictMono_cast.cmp_map_eq]
  · rw [compare_gt_iff_gt.2 h, (cmp_eq_gt_iff _ _).2 (magnitude_lt hq hp h)]
    rfl

end Parts

theorem cmp_neg_neg (r s : ℚ) : cmp (-r) (-s) = (cmp r s).swap := by
  rw [cmp_swap]
  exact StrictAnti.cmp_map_eq (fun _ _ => neg_lt_neg) r s

/-- Canonical parts are compared by their values. -/
theorem compare_unpacked {p q : Parts} (hp : p.Canonical) (hq : q.Canonical) :
    p.unpacked.compare q.unpacked = some (cmp p.value q.value) := by
  have hthen := Parts.compare_then_compare hp hq
  rcases p.significand.eq_zero_or_pos with hp0 | hp0
  · rw [Parts.unpacked_of_zero hp0, Parts.value_of_zero hp0]
    rcases q.significand.eq_zero_or_pos with hq0 | hq0
    · rw [Parts.unpacked_of_zero hq0, Parts.value_of_zero hq0]
      rfl
    · have hpos := Parts.magnitude_pos hq0
      rw [Parts.unpacked_of_pos hq0]
      unfold Parts.value Parts.sign
      cases q.negative with
      | true => exact congrArg some ((cmp_eq_gt_iff _ _).2 (neg_neg_of_pos hpos)).symm
      | false => exact congrArg some ((cmp_eq_lt_iff _ _).2 hpos).symm
  · have hpos := Parts.magnitude_pos hp0
    rw [Parts.unpacked_of_pos hp0]
    rcases q.significand.eq_zero_or_pos with hq0 | hq0
    · rw [Parts.unpacked_of_zero hq0, Parts.value_of_zero hq0]
      unfold Parts.value Parts.sign
      cases p.negative with
      | true => exact congrArg some ((cmp_eq_lt_iff _ _).2 (neg_neg_of_pos hpos)).symm
      | false => exact congrArg some ((cmp_eq_gt_iff _ _).2 hpos).symm
    · have hpos' := Parts.magnitude_pos hq0
      rw [Parts.unpacked_of_pos hq0]
      unfold Parts.value Parts.sign
      cases p.negative with
      | true =>
        cases q.negative with
        | true => exact congrArg some ((congrArg Ordering.swap hthen).trans (cmp_neg_neg _ _).symm)
        | false =>
          exact congrArg some ((cmp_eq_lt_iff _ _).2 ((neg_neg_of_pos hpos).trans hpos')).symm
      | false =>
        cases q.negative with
        | true => exact congrArg some ((cmp_eq_gt_iff _ _).2 ((neg_neg_of_pos hpos').trans hpos)).symm
        | false => exact congrArg some hthen

/-! ### Bits -/

section

variable {bits : ℕ}

theorem ofBits_of_zero (h : bits / 2 ^ 52 % 2 ^ 11 = 0) :
    Parts.ofBits bits = ⟨2 ^ 63 ≤ bits, bits % 2 ^ 52, -1074⟩ :=
  if_pos h

theorem ofBits_of_ne_zero (h : bits / 2 ^ 52 % 2 ^ 11 ≠ 0) :
    Parts.ofBits bits =
      ⟨2 ^ 63 ≤ bits, 2 ^ 52 + bits % 2 ^ 52, (bits / 2 ^ 52 % 2 ^ 11 : ℕ) - 1075⟩ :=
  if_neg h

theorem negative_ofBits : (Parts.ofBits bits).negative = decide (2 ^ 63 ≤ bits) := by
  by_cases h : bits / 2 ^ 52 % 2 ^ 11 = 0
  · rw [ofBits_of_zero h]
  · rw [ofBits_of_ne_zero h]

theorem canonical_ofBits (h : bits / 2 ^ 52 % 2 ^ 11 ≠ 2047) : (Parts.ofBits bits).Canonical := by
  have hfraction : bits % 2 ^ 52 < 2 ^ 52 := Nat.mod_lt _ (by decide)
  have hbiased : bits / 2 ^ 52 % 2 ^ 11 < 2 ^ 11 := Nat.mod_lt _ (by decide)
  by_cases hzero : bits / 2 ^ 52 % 2 ^ 11 = 0
  · rw [ofBits_of_zero hzero]
    refine ⟨hfraction.trans (by decide), le_rfl, ?_, .inl rfl⟩
    show (-1074 : ℤ) ≤ 971
    decide
  · rw [ofBits_of_ne_zero hzero]
    generalize bits / 2 ^ 52 % 2 ^ 11 = biased at *
    refine ⟨?_, ?_, ?_, .inr (Nat.le_add_right ..)⟩
    · show 2 ^ 52 + bits % 2 ^ 52 < 2 ^ 53
      omega
    · show -1074 ≤ (biased : ℤ) - 1075
      omega
    · show (biased : ℤ) - 1075 ≤ 971
      omega

end

section

variable (b : BitVec Format.binary64.numBits)

theorem toNat_unpackMantissa : (unpackMantissa b).toNat = b.toNat % 2 ^ 52 := by
  simp [unpackMantissa]

theorem toNat_unpackExponent : (unpackExponent b).toNat = b.toNat / 2 ^ 52 % 2 ^ 11 := by
  simp [unpackExponent, Nat.shiftRight_eq_div_pow]

theorem toNat_unpackSign : (unpackSign b).toNat = b.toNat / 2 ^ 63 := by
  have hlt : b.toNat < 2 ^ 64 := b.isLt
  simp [unpackSign, Nat.shiftRight_eq_div_pow]
  omega

theorem sign_ofBits : (Parts.ofBits b.toNat).sign = Sign.ofBitVec (unpackSign b) := by
  have hlt : b.toNat < 2 ^ 64 := b.isLt
  have hzero : unpackSign b = 0#1 ↔ ¬ 2 ^ 63 ≤ b.toNat := by
    rw [← BitVec.toNat_inj, toNat_unpackSign]
    show b.toNat / 2 ^ 63 = 0 ↔ _
    omega
  unfold Parts.sign Sign.ofBitVec
  rw [negative_ofBits]
  by_cases h : 2 ^ 63 ≤ b.toNat
  · rw [if_pos (decide_eq_true h), if_neg (not_not_intro h ∘ hzero.1)]
  · rw [if_neg (ne_true_of_eq_false (decide_eq_false h)), if_pos (hzero.2 h)]

/-- 64 bits whose exponent field is all ones are an infinity or no number. -/
theorem unpack_of_ones (h : b.toNat / 2 ^ 52 % 2 ^ 11 = 2047) :
    UnpackedFloat.unpack .binary64 b = .infinity (Parts.ofBits b.toNat).sign ∨
      UnpackedFloat.unpack .binary64 b = .notANumber := by
  have hones : unpackExponent b = -1#_ := by
    rw [← BitVec.toNat_inj, toNat_unpackExponent]
    exact h
  rw [sign_ofBits]
  unfold UnpackedFloat.unpack
  simp only [if_pos hones]
  split
  · exact .inl rfl
  · exact .inr rfl

/-- All other bits are the unpacked float with the parts that they hold. -/
theorem unpack_of_not_ones (h : b.toNat / 2 ^ 52 % 2 ^ 11 ≠ 2047) :
    UnpackedFloat.unpack .binary64 b = (Parts.ofBits b.toNat).unpacked := by
  have hexponent := toNat_unpackExponent b
  have hmantissa := toNat_unpackMantissa b
  have hones : unpackExponent b ≠ -1#_ := by
    rw [Ne, ← BitVec.toNat_inj, hexponent]
    exact h
  have hzero : unpackExponent b = 0#_ ↔ b.toNat / 2 ^ 52 % 2 ^ 11 = 0 := by
    rw [← BitVec.toNat_inj, hexponent]
    rfl
  have hfraction : unpackMantissa b = 0#_ ↔ b.toNat % 2 ^ 52 = 0 := by
    rw [← BitVec.toNat_inj, hmantissa]
    rfl
  unfold UnpackedFloat.unpack
  simp only [if_neg hones, ← sign_ofBits]
  by_cases hexp : b.toNat / 2 ^ 52 % 2 ^ 11 = 0
  · rw [if_pos (hzero.2 hexp)]
    by_cases hfrac : b.toNat % 2 ^ 52 = 0
    · rw [dif_pos (hfraction.2 hfrac), Parts.unpacked_of_zero]
      rw [ofBits_of_zero hexp]
      exact hfrac
    · have hpos : 0 < (Parts.ofBits b.toNat).significand := by
        rw [ofBits_of_zero hexp]
        exact Nat.pos_of_ne_zero hfrac
      rw [dif_neg (mt hfraction.1 hfrac), Parts.unpacked_of_pos hpos]
      simp only [hexponent, hmantissa, ofBits_of_zero hexp, hexp]
      rfl
  · have hpos : 0 < (Parts.ofBits b.toNat).significand := by
      rw [ofBits_of_ne_zero hexp]
      exact Nat.add_pos_left (by decide) _
    have happend : (1#1 ++ unpackMantissa b).toNat = 2 ^ 52 + b.toNat % 2 ^ 52 := by
      rw [BitVec.toNat_append, ← Nat.shiftLeft_add_eq_or_of_lt (unpackMantissa b).isLt, hmantissa]
      rfl
    rw [if_neg (mt hzero.1 hexp), Parts.unpacked_of_pos hpos]
    simp only [hexponent, happend, ofBits_of_ne_zero hexp]
    rfl

end

/-! ### Doubles -/

/-- The rational number that a finite double is. -/
def value (x : Float) : ℚ :=
  (parts x).value

/-- What a double is compared by: a rational number or one of the infinities, and nothing for NaN. -/
def extended? (x : Float) : Option (WithBotTop ℚ) :=
  if x.isNaN then none
  else if x.isInf then some (if (parts x).negative then ⊥ else ⊤)
  else some (value x : WithBotTop ℚ)

/-- What a double is compared by and what it unpacks to go together: they are nothing and NaN, infinite
with the same sign, or finite with the parts of the double. -/
inductive Reads (x : Float) : Option (WithBotTop ℚ) → UnpackedFloat → Prop
  | notANumber : Reads x none .notANumber
  | lowest : Reads x (some ⊥) (.infinity .negative)
  | highest : Reads x (some ⊤) (.infinity .positive)
  | finite : (parts x).Canonical → Reads x (some (value x : WithBotTop ℚ)) (parts x).unpacked

theorem unpacked_eq_zero_or_finite (p : Parts) :
    (∃ s, p.unpacked = .zero s) ∨ ∃ s m e h, p.unpacked = .finite s m e h := by
  rcases p.significand.eq_zero_or_pos with h | h
  · exact .inl ⟨_, Parts.unpacked_of_zero h⟩
  · exact .inr ⟨_, _, _, h, Parts.unpacked_of_pos h⟩

theorem reads (x : Float) : Reads x (extended? x) x.toModel.unpack := by
  have hnan : x.isNaN = x.toModel.unpack.isNaN := rfl
  have hinf : x.isInf = x.toModel.unpack.isInf := rfl
  have hparts : parts x = Parts.ofBits x.toBits.toBitVec.toNat := rfl
  have hunpack : x.toModel.unpack = UnpackedFloat.unpack .binary64 x.toBits.toBitVec := rfl
  unfold extended?
  rw [hnan, hinf, hparts, hunpack]
  by_cases h : x.toBits.toBitVec.toNat / 2 ^ 52 % 2 ^ 11 = 2047
  · rcases unpack_of_ones _ h with hu | hu
    · rw [hu, ← hparts]
      unfold Parts.sign
      cases (parts x).negative with
      | true => exact .lowest
      | false => exact .highest
    · rw [hu]
      exact .notANumber
  · have hfinite : (parts x).unpacked.isNaN = false ∧ (parts x).unpacked.isInf = false := by
      rcases unpacked_eq_zero_or_finite (parts x) with ⟨_, hu⟩ | ⟨_, _, _, _, hu⟩ <;> rw [hu] <;>
        exact ⟨rfl, rfl⟩
    rw [unpack_of_not_ones _ h, ← hparts, hfinite.1, hfinite.2]
    exact .finite (hparts ▸ canonical_ofBits h)

/-- Doubles are compared by what they stand for. -/
theorem compare_unpack (x y : Float) :
    x.toModel.unpack.compare y.toModel.unpack =
      (extended? x).bind fun r => (extended? y).map fun s => cmp r s := by
  have hx := reads x
  have hy := reads y
  generalize extended? x = r, x.toModel.unpack = u at hx ⊢
  generalize extended? y = s, y.toModel.unpack = v at hy ⊢
  cases hx with
  | notANumber => cases hy <;> rfl
  | lowest =>
    cases hy with
    | finite hq =>
      rcases unpacked_eq_zero_or_finite (parts y) with ⟨_, hv⟩ | ⟨_, _, _, _, hv⟩ <;> rw [hv] <;> rfl
    | _ => rfl
  | highest =>
    cases hy with
    | finite hq =>
      rcases unpacked_eq_zero_or_finite (parts y) with ⟨_, hv⟩ | ⟨_, _, _, _, hv⟩ <;> rw [hv] <;> rfl
    | _ => rfl
  | finite hp =>
    cases hy with
    | finite hq =>
      rw [compare_unpacked hp hq]
      exact congrArg some (WithBotTop.coe_strictMono.cmp_map_eq _ _).symm
    | _ =>
      rcases unpacked_eq_zero_or_finite (parts x) with ⟨s, hv⟩ | ⟨s, _, _, _, hv⟩ <;> rw [hv] <;>
        cases s <;> rfl

theorem lt_iff_extended {x y : Float} :
    x < y ↔ ∃ r s, extended? x = some r ∧ extended? y = some s ∧ r < s := by
  have hcompare : x < y ↔ x.toModel.unpack.compare y.toModel.unpack = some .lt := by
    show decide (x.toModel < y.toModel) = true ↔ _
    rw [decide_eq_true_iff]
    show (x.toModel.unpack.compare y.toModel.unpack == some .lt) = true ↔ _
    rw [beq_iff_eq]
  rw [hcompare, compare_unpack]
  simp only [Option.bind_eq_some_iff, Option.map_eq_some_iff, cmp_eq_lt_iff]
  constructor
  · rintro ⟨r, hr, s, hs, h⟩
    exact ⟨r, s, hr, hs, h⟩
  · rintro ⟨r, s, hr, hs, h⟩
    exact ⟨r, hr, s, hs, h⟩

theorem beq_iff_extended {x y : Float} :
    (x == y) = true ↔ ∃ r, extended? x = some r ∧ extended? y = some r := by
  have hcompare : (x == y) = true ↔ x.toModel.unpack.compare y.toModel.unpack = some .eq := by
    show (x.toModel.unpack.compare y.toModel.unpack == some .eq) = true ↔ _
    rw [beq_iff_eq]
  rw [hcompare, compare_unpack]
  simp only [Option.bind_eq_some_iff, Option.map_eq_some_iff, cmp_eq_eq_iff]
  constructor
  · rintro ⟨r, hr, s, hs, rfl⟩
    exact ⟨r, hr, hs⟩
  · rintro ⟨r, hr, hs⟩
    exact ⟨r, hr, r, hs, rfl⟩

theorem isNaN_iff_extended {x : Float} : x.isNaN = true ↔ extended? x = none := by
  unfold extended?
  by_cases h : x.isNaN
  · simp only [h, if_true]
  · rw [if_neg h]
    split <;> simp only [h, reduceCtorEq]

/-! ### Laws of the equality -/

section

variable {x y z : Float}

theorem beq_symm (h : (x == y) = true) : (y == x) = true := by
  obtain ⟨r, hx, hy⟩ := beq_iff_extended.1 h
  exact beq_iff_extended.2 ⟨r, hy, hx⟩

theorem beq_trans (h : (x == y) = true) (h' : (y == z) = true) : (x == z) = true := by
  obtain ⟨r, hx, hy⟩ := beq_iff_extended.1 h
  obtain ⟨s, hy', hz⟩ := beq_iff_extended.1 h'
  rw [hy] at hy'
  obtain rfl := Option.some.inj hy'
  exact beq_iff_extended.2 ⟨r, hx, hz⟩

/-- Only NaN differs from itself. -/
theorem beq_self_iff : (x == x) = true ↔ x.isNaN = false := by
  rw [beq_iff_extended, ← Bool.not_eq_true, isNaN_iff_extended]
  cases extended? x with
  | none => simp
  | some r => simp

end

/-! ### Finite doubles -/

/-- The bits of a finite double hold canonical parts. -/
theorem unpack_of_isFinite {x : Float} (h : x.isFinite) :
    (parts x).Canonical ∧ x.toModel.unpack = (parts x).unpacked ∧
      extended? x = some (value x : WithBotTop ℚ) := by
  have hx : x.toModel.unpack.isFinite = true := h
  have hread := reads x
  generalize x.toModel.unpack = u, extended? x = r at hx hread
  cases hread with
  | finite hp => exact ⟨hp, rfl, rfl⟩
  | _ => cases hx

theorem not_isNaN_not_isInf {x : Float} (h : x.isFinite) : x.isNaN = false ∧ x.isInf = false := by
  have hx : x.toModel.unpack.isFinite = true := h
  show x.toModel.unpack.isNaN = false ∧ x.toModel.unpack.isInf = false
  generalize x.toModel.unpack = u at hx
  cases u with
  | zero => exact ⟨rfl, rfl⟩
  | finite => exact ⟨rfl, rfl⟩
  | _ => cases hx

/-- A double that is neither NaN nor infinite is finite. -/
theorem isNaN_or_isInf_or_isFinite (x : Float) : x.isNaN = true ∨ x.isInf = true ∨ x.isFinite = true := by
  show x.toModel.unpack.isNaN = true ∨ x.toModel.unpack.isInf = true ∨ x.toModel.unpack.isFinite = true
  cases x.toModel.unpack with
  | notANumber => exact .inl rfl
  | infinity => exact .inr (.inl rfl)
  | zero => exact .inr (.inr rfl)
  | finite => exact .inr (.inr rfl)

theorem isFinite_zeros : (0.0 : Float).isFinite = true ∧ (-0.0 : Float).isFinite = true := by
  decide +kernel

theorem value_zeros : value 0.0 = 0 ∧ value (-0.0) = 0 := by
  decide +kernel

theorem isFinite_iff_extended {x : Float} :
    x.isFinite = true ↔ ∃ q : ℚ, extended? x = some (q : WithBotTop ℚ) := by
  constructor
  · intro h
    exact ⟨value x, (unpack_of_isFinite h).2.2⟩
  · rintro ⟨q, hq⟩
    have hread := reads x
    show x.toModel.unpack.isFinite = true
    rw [hq] at hread
    generalize hr : some (q : WithBotTop ℚ) = r, x.toModel.unpack = u at hread ⊢
    cases hread with
    | notANumber => cases hr
    | lowest => exact absurd (Option.some.inj hr) (WithBotTop.coe_ne_bot q)
    | highest => exact absurd (Option.some.inj hr) (WithBotTop.coe_ne_top q)
    | finite hp =>
      rcases unpacked_eq_zero_or_finite (parts x) with ⟨_, h⟩ | ⟨_, _, _, _, h⟩ <;> rw [h] <;> rfl

/-- What is neither finite nor NaN is infinite, on the side of zero on which it is compared. -/
theorem isInf_of_not_isFinite {x : Float} {r : WithBotTop ℚ} (hfinite : x.isFinite = false)
    (h : extended? x = some r) : x.isNaN = false ∧ x.isInf = true ∧ (x < 0.0 ↔ r < 0) := by
  have hnan : x.isNaN = false := by
    rw [← Bool.not_eq_true, isNaN_iff_extended, h]
    exact Option.some_ne_none r
  have hinf : x.isInf = true := by
    have hunpack : x.toModel.unpack.isFinite = false ∧ x.toModel.unpack.isNaN = false := ⟨hfinite, hnan⟩
    show x.toModel.unpack.isInf = true
    generalize x.toModel.unpack = u at hunpack
    cases u with
    | infinity => rfl
    | _ => simp [UnpackedFloat.isFinite, UnpackedFloat.isNaN] at hunpack
  have hzero : extended? 0.0 = some 0 := by decide +kernel
  refine ⟨hnan, hinf, ?_⟩
  rw [lt_iff_extended, h, hzero]
  simp

section

variable {x y : Float} (hx : x.isFinite) (hy : y.isFinite)

include hx hy

/-- Finite doubles are equal if their values are. -/
theorem beq_iff_value : (x == y) = true ↔ value x = value y := by
  rw [beq_iff_extended, (unpack_of_isFinite hx).2.2, (unpack_of_isFinite hy).2.2]
  constructor
  · rintro ⟨r, hr, hr'⟩
    exact WithBotTop.coe_injective (Option.some.inj (hr.trans hr'.symm))
  · intro h
    exact ⟨_, rfl, congrArg some (congrArg WithBotTop.coe h.symm)⟩

/-- Finite doubles are ordered as their values are. -/
theorem lt_iff_value : x < y ↔ value x < value y := by
  rw [lt_iff_extended, (unpack_of_isFinite hx).2.2, (unpack_of_isFinite hy).2.2]
  constructor
  · rintro ⟨r, s, hr, hs, h⟩
    rw [← Option.some.inj hr, ← Option.some.inj hs] at h
    exact WithBotTop.coe_lt_coe.1 h
  · intro h
    exact ⟨_, _, rfl, rfl, WithBotTop.coe_lt_coe.2 h⟩

end

end HostExpr.Number
