import HostExpr.Host.Object
import HostExpr.Proofs.ExactDoubles
import HostExpr.Proofs.FailureCauses
import HostExpr.Proofs.Unreached

/-!
# Equal numbers as keys

A number is a key in two ways: by its integer part in a list, and by its text in a map or a host object.
Numbers that are equal are the same key in both ways, except for the two zeros, whose texts differ.

* `Number.Zeros`: the two zeros;
* `Number.eq_or_zeros_of_beq`: equal finite doubles are one double or the two zeros;
* `Number.toIndex?_eq_of_beq`, `Number.text_eq_of_beq`: the list position and the text of equal numbers;
* `SameUpToMessage`: two runs with one value, or with errors of one kind;
* `Value.equal_keys`: what a value has under equal numbers.
-/

namespace HostExpr

open Stateful

/-! ### Equal doubles -/

namespace Number

variable {x y : Float}

/-- The two zeros, in either order. -/
def Zeros (x y : Float) : Prop :=
  (x = 0.0 ∧ y = -0.0) ∨ (x = -0.0 ∧ y = 0.0)

theorem negative_zeros : (parts 0.0).negative = false ∧ (parts (-0.0)).negative = true := by
  decide +kernel

theorem text_zeros : text 0.0 = "0" ∧ text (-0.0) = "-0" := by
  decide +kernel

theorem toIndex?_zeros : toIndex? 0.0 = some 0 ∧ toIndex? (-0.0) = some 0 := by
  decide +kernel

/-- A finite double with the value zero is the zero with its sign. -/
theorem eq_zero_of_value (hx : x.isFinite) (hvalue : value x = 0) :
    ((parts x).negative = false → x = 0.0) ∧ ((parts x).negative = true → x = -0.0) := by
  constructor
  · intro hsign
    exact eq_of_value hx isFinite_zeros.1 (hvalue.trans value_zeros.1.symm)
      (hsign.trans negative_zeros.1.symm)
  · intro hsign
    exact eq_of_value hx isFinite_zeros.2 (hvalue.trans value_zeros.2.symm)
      (hsign.trans negative_zeros.2.symm)

/-- Parts with one value but different signs have the value zero. -/
theorem Parts.value_eq_zero {p q : Parts} (h : p.value = q.value) (hp : p.negative = false)
    (hq : q.negative = true) : p.value = 0 := by
  have hnonneg : 0 ≤ p.value := by
    rw [value_of_not_negative hp]
    exact p.magnitude_nonneg
  have hnonpos : q.value ≤ 0 := by
    unfold value
    rw [if_pos hq]
    exact neg_nonpos.2 q.magnitude_nonneg
  exact le_antisymm (h.le.trans hnonpos) hnonneg

/-- Equal finite doubles are one double or the two zeros. -/
theorem eq_or_zeros_of_beq (hx : x.isFinite) (hy : y.isFinite) (h : (x == y) = true) :
    x = y ∨ Zeros x y := by
  have hvalue : value x = value y := (beq_iff_value hx hy).1 h
  cases hsignX : (parts x).negative with
  | false =>
    cases hsignY : (parts y).negative with
    | false => exact .inl (eq_of_value hx hy hvalue (hsignX.trans hsignY.symm))
    | true =>
      have hzero : value x = 0 := Parts.value_eq_zero hvalue hsignX hsignY
      exact .inr (.inl ⟨(eq_zero_of_value hx hzero).1 hsignX,
        (eq_zero_of_value hy (hvalue.symm.trans hzero)).2 hsignY⟩)
  | true =>
    cases hsignY : (parts y).negative with
    | true => exact .inl (eq_of_value hx hy hvalue (hsignX.trans hsignY.symm))
    | false =>
      have hzero : value y = 0 := Parts.value_eq_zero hvalue.symm hsignY hsignX
      exact .inr (.inr ⟨(eq_zero_of_value hx (hvalue.trans hzero)).2 hsignX,
        (eq_zero_of_value hy hzero).1 hsignY⟩)

theorem text_of_not_isFinite {r : WithBotTop ℚ} (hfinite : x.isFinite = false)
    (h : extended? x = some r) : text x = if r < 0 then "-Infinity" else "Infinity" := by
  obtain ⟨hnan, hinf, hlt⟩ := isInf_of_not_isFinite hfinite h
  unfold text
  rw [hnan, hinf]
  simp [hlt]

/-- Equal doubles are both finite, or both infinite on one side. -/
theorem finite_or_infinite_of_beq (h : (x == y) = true) :
    (x.isFinite = true ∧ y.isFinite = true) ∨
      (x.isFinite = false ∧ y.isFinite = false ∧ text x = text y) := by
  obtain ⟨r, hx, hy⟩ := beq_iff_extended.1 h
  have hiff : x.isFinite = true ↔ y.isFinite = true := by
    rw [isFinite_iff_extended, isFinite_iff_extended, hx, hy]
  cases hfinite : x.isFinite with
  | true => exact .inl ⟨rfl, hiff.1 hfinite⟩
  | false =>
    have hfiniteY : y.isFinite = false := by
      rw [← Bool.not_eq_true, ← hiff, hfinite]
      exact Bool.false_ne_true
    refine .inr ⟨rfl, hfiniteY, ?_⟩
    rw [text_of_not_isFinite hfinite hx, text_of_not_isFinite hfiniteY hy]

/-- Equal numbers stand for one list position. -/
theorem toIndex?_eq_of_beq (h : (x == y) = true) : toIndex? x = toIndex? y := by
  rcases finite_or_infinite_of_beq h with ⟨hx, hy⟩ | ⟨hx, hy, -⟩
  · rcases eq_or_zeros_of_beq hx hy h with rfl | ⟨rfl, rfl⟩ | ⟨rfl, rfl⟩
    · rfl
    · exact toIndex?_zeros.1.trans toIndex?_zeros.2.symm
    · exact toIndex?_zeros.2.trans toIndex?_zeros.1.symm
  · unfold toIndex?
    rw [hx, hy]
    rfl

/-- Equal numbers have one text, unless they are the two zeros. -/
theorem text_eq_of_beq (h : (x == y) = true) (hzeros : ¬Zeros x y) : text x = text y := by
  rcases finite_or_infinite_of_beq h with ⟨hx, hy⟩ | ⟨-, -, htext⟩
  · rcases eq_or_zeros_of_beq hx hy h with rfl | hzero
    · rfl
    · exact absurd hzero hzeros
  · exact htext

end Number

/-! ### Equal keys -/

variable {W : Type} {hosts : HostInterface W} {root v : Value} {x y : Expr} {s s' : W} {a b : Float}

/-- Two runs come to one value, or fail with errors of one kind, and leave one state. -/
inductive SameUpToMessage {α : Type} :
    EStateM.Result EvalError W α → EStateM.Result EvalError W α → Prop
  | value (x : α) (s : W) : SameUpToMessage (.ok x s) (.ok x s)
  | failure {e e' : EvalError} (s : W) :
      e.cause = e'.cause → SameUpToMessage (.error e s) (.error e' s)

theorem SameUpToMessage.refl {α : Type} (r : EStateM.Result EvalError W α) : SameUpToMessage r r := by
  cases r with
  | ok x s => exact .value x s
  | error e s => exact .failure s rfl

/-- A computed key is looked up in the state that its expression leaves. -/
theorem evalPath_key (hnull : v.isNull = false) (hx : x.eval hosts root s = .ok (.number a) s') :
    evalPath hosts root v [.key x] s = v.get hosts (.number a) s' := by
  rw [evalPath_cons hosts root hnull, Segment.eval]
  simp only [evalPath, bind_pure]
  rw [bind_of_ok hx]
  rfl

theorem Value.lookup_zeros (hosts : HostInterface W) (state : W) (hv : v.kind = .map ∨ v.kind = .host) :
    v.lookup hosts state (.number 0.0) = v.lookup hosts state (.name "0") ∧
      v.lookup hosts state (.number (-0.0)) = v.lookup hosts state (.name "-0") := by
  cases v with
  | map entries | host ref => simp only [lookup, Key.toName, Number.text_zeros, and_self]
  | _ => simp [kind] at hv

/-- Under equal numbers, a value has one value or fails in one way, unless the numbers are the two zeros and
the value is searched by name. -/
theorem Value.get_equal_keys (hbeq : (a == b) = true)
    (hv : (v.kind ≠ .map ∧ v.kind ≠ .host) ∨ ¬Number.Zeros a b) (state : W) :
    SameUpToMessage (v.get hosts (.number a) state) (v.get hosts (.number b) state) := by
  have hindex : (Key.number a).toIndex? = (Key.number b).toIndex? := Number.toIndex?_eq_of_beq hbeq
  have hname : v.kind = .map ∨ v.kind = .host → (Key.number a).toName = (Key.number b).toName := by
    intro hkind
    refine Number.text_eq_of_beq hbeq (hv.resolve_left ?_)
    rintro ⟨hmap, hhost⟩
    exact hkind.elim hmap hhost
  rw [get_apply, get_apply]
  cases v with
  | null => exact .refl _
  | boolean _ | number _ | text _ =>
    -- the errors may name different members, but they are of one kind
    refine .failure state ?_
    simp only [EvalError.cause]
  | list items =>
    rw [lookup, lookup, hindex]
    exact .refl _
  | map entries =>
    rw [lookup, lookup, hname (.inl rfl)]
    exact .refl _
  | host ref =>
    rw [lookup, lookup, hname (.inr rfl)]
    exact .refl _

/-- **Equal numbers are equal keys, but for the two zeros.**  Two computed keys that are equal numbers lead
from a value to one value, or fail with errors of one kind, unless the value is a map or a host object and
the keys are the two zeros.  There, 0 is looked up under the name `0` and -0 under the name `-0`. -/
theorem Value.equal_keys :
    (∀ (W : Type) (hosts : HostInterface W) (root v : Value) (x y : Expr) (s s' : W) (a b : Float),
      x.eval hosts root s = .ok (.number a) s' → y.eval hosts root s = .ok (.number b) s' →
      CompareOp.equal.holds (.number a) (.number b) = true →
      (v.kind ≠ .map ∧ v.kind ≠ .host) ∨ ¬Number.Zeros a b →
        SameUpToMessage (evalPath hosts root v [.key x] s) (evalPath hosts root v [.key y] s)) ∧
    ∀ (W : Type) (hosts : HostInterface W) (root v : Value) (x : Expr) (s s' : W),
      v.kind = .map ∨ v.kind = .host →
      (x.eval hosts root s = .ok (.number 0.0) s' →
        evalPath hosts root v [.key x] s = v.get hosts (.name "0") s') ∧
      (x.eval hosts root s = .ok (.number (-0.0)) s' →
        evalPath hosts root v [.key x] s = v.get hosts (.name "-0") s') := by
  constructor
  · intro W hosts root v x y s s' a b hx hy hequal hv
    cases hnull : v.isNull with
    | true =>
      rw [isNull_iff.1 hnull, evalPath_null, evalPath_null]
      exact .refl _
    | false =>
      have hbeq : (a == b) = true := hequal
      rw [evalPath_key hnull hx, evalPath_key hnull hy]
      exact get_equal_keys hbeq hv s'
  · intro W hosts root v x s s' hv
    have hnull : v.isNull = false := by
      cases v with
      | null => simp [kind] at hv
      | _ => rfl
    obtain ⟨hzero, hnegative⟩ := lookup_zeros hosts s' hv
    constructor
    · intro hx
      rw [evalPath_key hnull hx, get_apply, hzero, get_apply]
    · intro hx
      rw [evalPath_key hnull hx, get_apply, hnegative, get_apply]

/-- 0 and -0 lead to the first item of a list, and in a map to the names `0` and `-0`. -/
theorem Value.equal_keys_zeros :
    CompareOp.equal.holds (.number 0.0) (.number (-0.0)) = true ∧
    SameUpToMessage
      (evalPath HostTable.interface .null (.list [.text "a"]) [.key (.number 0.0)] ({} : HostTable Unit))
      (evalPath HostTable.interface .null (.list [.text "a"]) [.key (.number (-0.0))] {}) ∧
    evalPath HostTable.interface .null (.map [("-0", .text "a")]) [.key (.number (-0.0))]
      ({} : HostTable Unit) = .ok (.text "a") {} := by
  have hequal : CompareOp.equal.holds (.number 0.0) (.number (-0.0)) = true := by decide +kernel
  have hnumber : ∀ x : Float,
      (Expr.number x).eval HostTable.interface .null ({} : HostTable Unit) = .ok (.number x) {} := by
    intro x
    rw [Expr.eval]
    rfl
  obtain ⟨hsame, hname⟩ := equal_keys
  refine ⟨hequal, ?_, ?_⟩
  · exact hsame _ _ _ _ _ _ _ _ _ _ (hnumber 0.0) (hnumber (-0.0)) hequal
      (.inl ⟨by decide, by decide⟩)
  · rw [(hname _ _ _ (.map [("-0", .text "a")]) _ _ _ (.inl rfl)).2 (hnumber (-0.0))]
    rfl

/-- 0 and -0 are equal, but in a map with the one name `0` only 0 finds something. -/
theorem Value.equal_keys_differ :
    CompareOp.equal.holds (.number 0.0) (.number (-0.0)) = true ∧
    evalPath HostTable.interface .null (.map [("0", .number 1.0)]) [.key (.number 0.0)]
      ({} : HostTable Unit) = .ok (.number 1.0) {} ∧
    evalPath HostTable.interface .null (.map [("0", .number 1.0)]) [.key (.number (-0.0))]
      ({} : HostTable Unit) = .ok .null {} ∧
    ¬SameUpToMessage
      (evalPath HostTable.interface .null (.map [("0", .number 1.0)]) [.key (.number 0.0)]
        ({} : HostTable Unit))
      (evalPath HostTable.interface .null (.map [("0", .number 1.0)]) [.key (.number (-0.0))] {}) := by
  have hkey : ∀ x : Float,
      evalPath HostTable.interface .null (.map [("0", .number 1.0)]) [.key (.number x)]
        ({} : HostTable Unit) = (Value.map [("0", .number 1.0)]).get HostTable.interface (.number x) {} := by
    intro x
    refine evalPath_key rfl ?_
    rw [Expr.eval]
    rfl
  obtain ⟨hzero, hnegative⟩ := lookup_zeros (v := .map [("0", .number 1.0)])
    HostTable.interface ({} : HostTable Unit) (.inl rfl)
  have hfound : evalPath HostTable.interface .null (.map [("0", .number 1.0)]) [.key (.number 0.0)]
      ({} : HostTable Unit) = .ok (.number 1.0) {} := by
    rw [hkey, get_apply, hzero]
    rfl
  have hnothing : evalPath HostTable.interface .null (.map [("0", .number 1.0)])
      [.key (.number (-0.0))] ({} : HostTable Unit) = .ok .null {} := by
    rw [hkey, get_apply, hnegative]
    rfl
  refine ⟨by decide +kernel, hfound, hnothing, ?_⟩
  rw [hfound, hnothing]
  intro h
  cases h

end HostExpr
