import HostExpr.Proofs.SignBit

/-!
# A number that is read is a number

Digits are read as a number without a minus sign, and no text is read as the double that is not a number.

* `Number.isNaN_unpack_pack`: a double is no number only if it is made from an unpacked float that is none;
* `Number.Positive`: an unpacked float that is a number without a minus sign, kept by
  `Number.Positive.unpack_pack`, and by `Number.Positive.mul` and `Number.Positive.div` with a finite float
  that is not zero;
* `Number.exists_positive`: each decimal is such a float;
* `Number.signClear_toFloat`, `Number.isNaN_toFloat`, `Number.isNaN_of_read?`: so the sign bit of a decimal is
  not set, and whatever is read is a number.

A product or a quotient of any two numbers can be none: zero times an infinity, and zero by zero.
-/

namespace HostExpr.Number

open Float.Model Float.Model.UnpackedFloat

/-! ### Packed floats -/

/-- The bits that are not a number have an exponent of ones and a fraction that is not zero. -/
theorem fields_of_isNaN {b : BitVec Format.binary64.numBits}
    (h : (UnpackedFloat.unpack .binary64 b).isNaN = true) :
    unpackExponent b = -1#_ ∧ unpackMantissa b ≠ 0#_ := by
  unfold UnpackedFloat.unpack at h
  simp only at h
  split at h
  · next hexponent =>
    split at h
    · exact absurd h (by simp [UnpackedFloat.isNaN])
    · next hmantissa => exact ⟨hexponent, hmantissa⟩
  · split at h
    · split at h
      · exact absurd h (by simp [UnpackedFloat.isNaN])
      · exact absurd h (by simp [UnpackedFloat.isNaN])
    · exact absurd h (by simp [UnpackedFloat.isNaN])

theorem isNaN_packComponents {s : Sign} {e : BitVec Format.binary64.exponentBits}
    {m : BitVec Format.binary64.mantissaBitsWithoutImplicit} (h : e = -1#_ → m = 0#_) :
    (UnpackedFloat.unpack .binary64 (packComponents .binary64 s e m)).isNaN = false := by
  rw [← Bool.not_eq_true]
  intro hnan
  obtain ⟨hexponent, hmantissa⟩ := fields_of_isNaN hnan
  rw [unpackExponent_packComponents] at hexponent
  rw [unpackMantissa_packComponents] at hmantissa
  exact hmantissa (h hexponent)

theorem isNaN_unpack_pack (u : UnpackedFloat) :
    (UnpackedFloat.unpack .binary64 (u.pack .binary64)).isNaN = u.isNaN := by
  fun_cases UnpackedFloat.pack .binary64 u with
  | case1 => rfl
  | case2 s => exact isNaN_packComponents fun _ => rfl
  | case3 s => exact isNaN_packComponents fun _ => rfl
  | case4 s m e => exact isNaN_packComponents fun _ => rfl
  | case5 s m e _ _ biased hbiased =>
    -- an exponent of ones would have been packed as an infinity
    have hlt : biased + 1 < 2 ^ 11 := Nat.lt_of_not_le hbiased
    refine isNaN_packComponents fun hones => absurd (congrArg BitVec.toNat hones) ?_
    show biased % 2 ^ 11 ≠ 2047
    omega
  | case6 s m e => exact isNaN_packComponents fun hones => absurd hones (by decide)

/-! ### Unpacked floats -/

/-- An unpacked float that is a number without a minus sign. -/
structure Positive (u : UnpackedFloat) : Prop where
  unsigned : Unsigned u
  isNaN : u.isNaN = false

/-- Whether an unpacked float is finite, not zero, and without a minus sign. -/
def isPositiveFinite : UnpackedFloat → Bool
  | .finite .positive _ _ _ => true
  | _ => false

section

variable {u v : UnpackedFloat}

theorem Positive.eq_or_eq_or_exists (h : Positive u) :
    u = .infinity .positive ∨ u = .zero .positive ∨ ∃ m e hm, u = .finite .positive m e hm := by
  obtain ⟨hsign, hnumber⟩ := h
  cases u with
  | notANumber => exact absurd hnumber (by simp [UnpackedFloat.isNaN])
  | infinity s =>
    obtain rfl := hsign
    exact .inl rfl
  | zero s =>
    obtain rfl := hsign
    exact .inr (.inl rfl)
  | finite s m e hm =>
    obtain rfl := hsign
    exact .inr (.inr ⟨m, e, hm, rfl⟩)

theorem exists_of_isPositiveFinite (h : isPositiveFinite v) : ∃ m e hm, v = .finite .positive m e hm := by
  unfold isPositiveFinite at h
  split at h
  · exact ⟨_, _, _, rfl⟩
  · exact absurd h Bool.false_ne_true

theorem Positive.unpack_pack (h : Positive u) :
    Positive (UnpackedFloat.unpack .binary64 (u.pack .binary64)) :=
  ⟨unsigned_unpack (unpackSign_pack h.unsigned), (isNaN_unpack_pack u).trans h.isNaN⟩

variable (spec : Format)

theorem positive_roundWithAccuracy (m : Nat) (e : Int) (accuracy : Accuracy) :
    Positive (roundWithAccuracy spec .positive m e accuracy) := by
  unfold roundWithAccuracy
  simp only
  split
  · exact ⟨rfl, rfl⟩
  · exact ⟨rfl, rfl⟩

theorem Positive.mul (hu : Positive u) (hv : isPositiveFinite v) : Positive (u.mul spec v) := by
  obtain ⟨m, e, hm, rfl⟩ := exists_of_isPositiveFinite hv
  rcases hu.eq_or_eq_or_exists with rfl | rfl | ⟨m', e', hm', rfl⟩
  · exact ⟨rfl, rfl⟩
  · exact ⟨rfl, rfl⟩
  · exact positive_roundWithAccuracy ..

theorem Positive.div (hu : Positive u) (hv : isPositiveFinite v) : Positive (u.div spec v) := by
  obtain ⟨m, e, hm, rfl⟩ := exists_of_isPositiveFinite hv
  rcases hu.eq_or_eq_or_exists with rfl | rfl | ⟨m', e', hm', rfl⟩
  · exact ⟨rfl, rfl⟩
  · exact ⟨rfl, rfl⟩
  · exact positive_roundWithAccuracy ..

end

theorem positive_ofNat (spec : Format) (n : Nat) : Positive (UnpackedFloat.ofNat spec n) := by
  unfold UnpackedFloat.ofNat UnpackedFloat.ofInt UnpackedFloat.normalize
  cases n with
  | zero => exact ⟨rfl, rfl⟩
  | succ n => exact positive_roundWithAccuracy ..

theorem positive_ofScientific (spec : Format) (m : Nat) (e : Int) :
    Positive (UnpackedFloat.ofScientific spec m e) := by
  unfold UnpackedFloat.ofScientific
  split
  · exact ⟨rfl, rfl⟩
  split
  · exact ⟨rfl, rfl⟩
  split
  · exact ⟨rfl, rfl⟩
  split
  · exact Positive.mul spec ⟨rfl, rfl⟩ rfl
  · exact Positive.div spec ⟨rfl, rfl⟩ rfl

/-! ### Decimals -/

theorem exists_positive_ofScientific (m : Nat) (s : Bool) (e : Nat) :
    ∃ u, Positive u ∧ Float.ofScientific m s e = Float.ofModel (Float.Model.pack u) := by
  have hpower : ∀ x ∈ Float.exactlyRepresentablePowersOfTen, isPositiveFinite x.toModel.unpack := by
    decide +kernel
  have hdigits : Positive m.toUInt64.toFloat.toModel.unpack := (positive_ofNat _ _).unpack_pack
  unfold Float.ofScientific
  split
  · simp only
    split
    · exact ⟨_, hdigits.div _ (hpower _ (Array.getElem_mem _)), rfl⟩
    · exact ⟨_, hdigits.mul _ (hpower _ (Array.getElem_mem _)), rfl⟩
  · exact ⟨_, positive_ofScientific _ _ _, rfl⟩

/-- A decimal is packed from a number without a minus sign. -/
theorem exists_positive (d : Decimal) :
    ∃ u, Positive u ∧ d.toFloat = Float.ofModel (Float.Model.pack u) := by
  unfold Decimal.toFloat
  simp only
  split
  · exact exists_positive_ofScientific ..
  split
  · exact ⟨.infinity .positive, ⟨rfl, rfl⟩, by decide +kernel⟩
  · exact exists_positive_ofScientific ..

theorem signClear_toFloat (d : Decimal) : SignClear d.toFloat := by
  obtain ⟨u, hu, heq⟩ := exists_positive d
  rw [heq]
  exact unpackSign_pack hu.unsigned

theorem isNaN_toFloat (d : Decimal) : d.toFloat.isNaN = false := by
  obtain ⟨u, hu, heq⟩ := exists_positive d
  rw [heq]
  exact hu.unpack_pack.isNaN

/-! ### Reading -/

theorem isNaN_neg (x : Float) : (-x).isNaN = x.isNaN := by
  have hneg : ∀ u : UnpackedFloat, u.neg.isNaN = u.isNaN := by
    intro u
    cases u with
    | _ => rfl
  exact (isNaN_unpack_pack _).trans (hneg _)

/-- What a text is read as is a number. -/
theorem isNaN_of_read? {cs : List Char} {x : Float} (h : read? cs = some x) : x.isNaN = false := by
  unfold read? at h
  split at h
  · obtain ⟨d, -, rfl⟩ := Option.map_eq_some_iff.1 h
    exact isNaN_toFloat d
  · obtain ⟨d, -, rfl⟩ := Option.map_eq_some_iff.1 h
    exact (isNaN_neg _).trans (isNaN_toFloat d)
  · obtain ⟨d, -, rfl⟩ := Option.map_eq_some_iff.1 h
    exact isNaN_toFloat d

end HostExpr.Number
