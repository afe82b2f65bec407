import Mathlib
import HostExpr.Number.Text

/-!
# Numbers without a sign

The sign of an unpacked float is the top bit of the packed one.

* `Number.Unsigned`: an unpacked float without a minus sign;
* `Number.unpackSign_pack`, `Number.unsigned_unpack`: the sign of an unpacked float and the top bit of a
  packed one;
* `Number.SignClear`: the sign bit of a number is not set, with `Number.SignClear.negative`.
-/

namespace HostExpr.Number

open Float.Model Float.Model.UnpackedFloat

/-! ### Unpacked floats -/

/-- An unpacked float without a minus sign. -/
def Unsigned : UnpackedFloat → Prop
  | .infinity sign | .zero sign | .finite sign _ _ _ => sign = .positive
  | .notANumber => True

/-! ### Packed floats -/

theorem unpackSign_pack {u : UnpackedFloat} (h : Unsigned u) :
    unpackSign (u.pack Format.binary64) = 0#1 := by
  fun_cases UnpackedFloat.pack Format.binary64 u with
  | case1 => exact unpackSign_packComponents ..
  | case2 sign => obtain rfl := h; exact unpackSign_packComponents ..
  | case3 sign => obtain rfl := h; exact unpackSign_packComponents ..
  | case4 sign m e => obtain rfl := h; exact unpackSign_packComponents ..
  | case5 sign m e => obtain rfl := h; exact unpackSign_packComponents ..
  | case6 sign m e => obtain rfl := h; exact unpackSign_packComponents ..

theorem unsigned_unpack {bits : BitVec Format.binary64.numBits} (h : unpackSign bits = 0#1) :
    Unsigned (UnpackedFloat.unpack Format.binary64 bits) := by
  have hsign : Sign.ofBitVec (unpackSign bits) = .positive := if_pos h
  fun_cases UnpackedFloat.unpack Format.binary64 bits with
  | case2 => trivial
  | _ => exact hsign

/-! ### Numbers -/

/-- The sign bit of a number is not set. -/
def SignClear (x : Float) : Prop :=
  @unpackSign Format.binary64 x.toBits.toBitVec = 0#1

theorem SignClear.negative {x : Float} (h : SignClear x) : (parts x).negative = false := by
  have hnegative : (parts x).negative = decide (Nat.pow 2 63 ≤ x.toBits.toNat) := by
    unfold parts
    simp only
    split
    · rfl
    · rfl
  have htop : x.toBits.toNat >>> 63 % 2 = 0 := congrArg BitVec.toNat h
  have hbits : x.toBits.toNat < 2 ^ 64 := x.toBits.toNat_lt
  have hlt : x.toBits.toNat < Nat.pow 2 63 := by
    rw [Nat.shiftRight_eq_div_pow] at htop
    show x.toBits.toNat < 2 ^ 63
    omega
  rw [hnegative, decide_eq_false (Nat.not_le_of_lt hlt)]

end HostExpr.Number
