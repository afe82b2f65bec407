import HostExpr.Proofs.CallGate
import HostExpr.Proofs.IntegerPart

/-!
# Binding arguments to parameters

Which arguments a method accepts, what it receives for them, and which error names the first parameter
that is not served.

* `Number.Truncates`: a number and what is left of it without its fraction, by their values
  (`Number.truncates_iff`);
* `Param.Gives`: what a parameter makes of an argument, or of its default where there is none;
* `Param.fill_ok_iff`, `Param.fill_error_iff`: one parameter;
* `Param.fillAll_ok_iff`, `Param.fillAll_error_iff`: all parameters, from the left;
* `bindArguments_ok_iff`, `bindArguments_error_iff`: a whole call;
* `bindArguments_exact`: when binding succeeds, with which values, and with which error it fails.

Nothing is assumed of the parameters: one without a default may follow one with a default, and a default
may be of a kind that its own parameter does not take.
-/

namespace HostExpr

/-! ### Truncation -/

/-- The second number is the first one without its fraction: its value is the integer part toward zero,
and its sign is the same, also for a zero.  What is not finite has no fraction. -/
structure Number.Truncates (x y : Float) : Prop where
  finite : x.isFinite → y.isFinite ∧ value y = integerPart (value x) ∧
    (parts y).negative = (parts x).negative
  not_finite : x.isFinite = false → y = x

theorem Number.truncates_truncate (x : Float) : Truncates x (truncate x) :=
  ⟨truncate_finite, truncate_of_not_finite⟩

/-- There is exactly one such number. -/
theorem Number.truncates_iff {x y : Float} : Truncates x y ↔ y = truncate x := by
  constructor
  · intro h
    cases hx : x.isFinite with
    | false => rw [h.not_finite hx, truncate_of_not_finite hx]
    | true =>
      obtain ⟨hy, hvalue, hnegative⟩ := h.finite hx
      obtain ⟨hz, hvalue', hnegative'⟩ := truncate_finite hx
      exact eq_of_value hy hz (hvalue.trans hvalue'.symm) (hnegative.trans hnegative'.symm)
  · rintro rfl
    exact truncates_truncate x

/-! ### One parameter -/

namespace Param

/-- What a parameter makes of an argument: a number for an integer parameter is truncated and everything
else is left as it is; where there is no argument, the default stands as it is. -/
inductive Gives (p : Param) : Option Value → Value → Prop
  | truncated {x y : Float} :
      p.kind = .integer → Number.Truncates x y → Gives p (some (.number x)) (.number y)
  | unchanged {v : Value} : ¬ (p.kind = .integer ∧ v.kind = .number) → Gives p (some v) v
  | default {d : Value} : p.default? = some d → Gives p none d

variable {host method : String} {p : Param} {arg? : Option Value} {v : Value} {e : EvalError}

theorem gives_some {a : Value} : p.Gives (some a) v ↔ p.kind.convert a = v := by
  by_cases h : p.kind = .integer ∧ a.kind = .number
  · obtain ⟨hkind, hnumber⟩ := h
    cases a with
    | number x =>
      rw [hkind]
      constructor
      · intro h
        cases h with
        | truncated _ hy => exact congrArg Value.number (Number.truncates_iff.1 hy).symm
        | unchanged h => exact absurd ⟨hkind, rfl⟩ h
      · rintro rfl
        exact .truncated hkind (Number.truncates_truncate x)
    | _ => cases hnumber
  · have hconvert : p.kind.convert a = a := by
      unfold ParamKind.convert
      split
      · next hkind => exact absurd ⟨hkind, rfl⟩ h
      · rfl
    rw [hconvert]
    constructor
    · intro hgives
      cases hgives with
      | truncated hkind _ => exact absurd ⟨hkind, rfl⟩ h
      | unchanged _ => rfl
    · rintro rfl
      exact .unchanged h

theorem gives_none : p.Gives none v ↔ p.default? = some v := by
  constructor
  · rintro ⟨⟩
    assumption
  · exact .default

/-- What a parameter makes of an argument or its default, as it is looked up. -/
theorem gives_iff : p.Gives arg? v ↔ (arg?.map p.kind.convert <|> p.default?) = some v := by
  cases arg? with
  | none => exact gives_none
  | some a =>
    rw [gives_some]
    exact (Option.some_inj).symm

theorem Gives.unique {v w : Value} (hv : p.Gives arg? v) (hw : p.Gives arg? w) : v = w :=
  Option.some.inj ((gives_iff.1 hv).symm.trans (gives_iff.1 hw))

/-- A parameter is not filled if there is neither an argument nor a default. -/
theorem not_gives_iff : (∀ v, ¬ p.Gives arg? v) ↔ arg? = none ∧ p.default? = none := by
  simp only [gives_iff]
  cases arg? with
  | none => simp [Option.eq_none_iff_forall_ne_some]
  | some a => simp

/-- A parameter is served, is not filled, or gets a value of another kind. -/
theorem fill_cases (host method : String) (p : Param) (arg? : Option Value) :
    (∃ v, p.Gives arg? v ∧ p.kind.Admits v ∧ p.fill host method arg? = .ok v) ∨
    ((∀ v, ¬ p.Gives arg? v) ∧
      p.fill host method arg? = .error (.missingArgument host method p.name)) ∨
    ∃ v, p.Gives arg? v ∧ ¬ p.kind.Admits v ∧
      p.fill host method arg? = .error (.wrongKind method p.name p.kind v.kind) := by
  simp only [gives_iff, ← ParamKind.accepts_iff]
  unfold fill
  cases (arg?.map p.kind.convert <|> p.default?) with
  | none => exact .inr (.inl ⟨fun _ h => (Option.some_ne_none _ h.symm).elim, rfl⟩)
  | some v =>
    by_cases h : p.kind.accepts v
    · exact .inl ⟨v, rfl, h, if_pos h⟩
    · exact .inr (.inr ⟨v, rfl, h, if_neg h⟩)

/-- A parameter is served with a value: that is what it makes of the argument or its default, and it is of
the declared kind. -/
def Serves (p : Param) (arg? : Option Value) (v : Value) : Prop :=
  p.Gives arg? v ∧ p.kind.Admits v

theorem fill_ok_iff : p.fill host method arg? = .ok v ↔ p.Serves arg? v := by
  unfold Serves
  rcases fill_cases host method p arg? with ⟨w, hw, hkind, h⟩ | ⟨hnone, h⟩ | ⟨w, hw, hkind, h⟩
  · rw [h, Except.ok.injEq]
    constructor
    · rintro rfl
      exact ⟨hw, hkind⟩
    · exact fun hv => hw.unique hv.1
  · rw [h]
    exact iff_of_false (by simp) fun hv => hnone v hv.1
  · rw [h]
    refine iff_of_false (by simp) fun hv => hkind ?_
    rw [hw.unique hv.1]
    exact hv.2

/-- Why a parameter is not served: it is not filled, or its value is of another kind. -/
def Fails (host method : String) (p : Param) (arg? : Option Value) (e : EvalError) : Prop :=
  (∀ v, ¬ p.Gives arg? v) ∧ e = .missingArgument host method p.name ∨
    ∃ v, p.Gives arg? v ∧ ¬ p.kind.Admits v ∧ e = .wrongKind method p.name p.kind v.kind

theorem fill_error_iff : p.fill host method arg? = .error e ↔ p.Fails host method arg? e := by
  unfold Fails
  rcases fill_cases host method p arg? with ⟨w, hw, hkind, h⟩ | ⟨hnone, h⟩ | ⟨w, hw, hkind, h⟩
  · rw [h]
    refine iff_of_false (by simp) ?_
    rintro (⟨hnone, -⟩ | ⟨v, hv, hv', -⟩)
    · exact hnone w hw
    · rw [hv.unique hw] at hv'
      exact hv' hkind
  · rw [h, Except.error.injEq]
    constructor
    · rintro rfl
      exact .inl ⟨hnone, rfl⟩
    · rintro (⟨-, rfl⟩ | ⟨v, hv, -⟩)
      · rfl
      · exact absurd hv (hnone v)
  · rw [h, Except.error.injEq]
    constructor
    · rintro rfl
      exact .inr ⟨w, hw, hkind, rfl⟩
    · rintro (⟨hnone, -⟩ | ⟨v, hv, -, rfl⟩)
      · exact absurd hw (hnone w)
      · rw [hv.unique hw]

/-! ### All parameters -/

variable {params : List Param} {args vs : List Value}

theorem fillAll_cons_eq_ok :
    fillAll host method (p :: params) args = .ok vs ↔
      ∃ v ws, p.fill host method args[0]? = .ok v ∧
        fillAll host method params args.tail = .ok ws ∧ v :: ws = vs := by
  rw [fillAll, List.head?_eq_getElem?]
  cases p.fill host method args[0]? with
  | error e => exact iff_of_false (by simp [bind, Except.bind]) (by simp)
  | ok v =>
    cases fillAll host method params args.tail with
    | error e => exact iff_of_false (by simp [bind, Except.bind]) (by simp)
    | ok ws => simp [bind, Except.bind, pure, Except.pure]

theorem fillAll_cons_eq_error :
    fillAll host method (p :: params) args = .error e ↔
      p.fill host method args[0]? = .error e ∨
        ∃ v, p.fill host method args[0]? = .ok v ∧
          fillAll host method params args.tail = .error e := by
  rw [fillAll, List.head?_eq_getElem?]
  cases p.fill host method args[0]? with
  | error e => simp [bind, Except.bind]
  | ok v =>
    cases fillAll host method params args.tail <;> simp [bind, Except.bind, pure, Except.pure]

/-- What holds of the members of a list at their places holds of the first one, and of the others one place
further on. -/
theorem forall_getElem?_cons {P : ℕ → Param → Prop} :
    (∀ (i : ℕ) (q : Param), (p :: params)[i]? = some q → P i q) ↔
      P 0 p ∧ ∀ (i : ℕ) (q : Param), params[i]? = some q → P (i + 1) q := by
  constructor
  · exact fun h => ⟨h 0 p rfl, fun i q hq => h (i + 1) q hq⟩
  · rintro ⟨hfirst, hothers⟩ i q hq
    cases i with
    | zero => exact Option.some.inj hq ▸ hfirst
    | succ i => exact hothers i q hq

/-- All parameters are served if each one is, by the argument at its place. -/
theorem fillAll_ok_iff :
    fillAll host method params args = .ok vs ↔
      vs.length = params.length ∧
        ∀ (i : ℕ) (q : Param), params[i]? = some q → ∃ v, vs[i]? = some v ∧ q.Serves args[i]? v := by
  induction params generalizing args vs with
  | nil =>
    constructor
    · intro h
      obtain rfl : [] = vs := Except.ok.inj h
      exact ⟨rfl, fun i q hq => absurd hq (by simp)⟩
    · rintro ⟨hlength, -⟩
      rw [List.eq_nil_of_length_eq_zero hlength]
      rfl
  | cons p params ih =>
    rw [fillAll_cons_eq_ok, forall_getElem?_cons]
    simp only [fill_ok_iff, ih, List.getElem?_tail]
    constructor
    · rintro ⟨v, ws, hserved, ⟨hlength, hall⟩, rfl⟩
      exact ⟨congrArg (· + 1) hlength, ⟨v, rfl, hserved⟩, hall⟩
    · rintro ⟨hlength, ⟨v, hv, hserved⟩, hall⟩
      obtain ⟨w, ws, rfl⟩ := List.exists_cons_of_length_eq_add_one hlength
      obtain rfl : w = v := Option.some.inj hv
      exact ⟨w, ws, hserved, ⟨Nat.succ.inj hlength, hall⟩, rfl⟩

/-- Otherwise the first one that is not served gives the error. -/
theorem fillAll_error_iff :
    fillAll host method params args = .error e ↔
      ∃ (i : ℕ) (q : Param), params[i]? = some q ∧ q.Fails host method args[i]? e ∧
        ∀ j < i, ∀ r : Param, params[j]? = some r → ∃ v, r.Serves args[j]? v := by
  induction params generalizing args with
  | nil =>
    constructor
    · intro h
      cases h
    · rintro ⟨i, q, hq, -⟩
      exact absurd hq (by simp)
  | cons p params ih =>
    rw [fillAll_cons_eq_error]
    simp only [fill_error_iff, fill_ok_iff, ih, List.getElem?_tail]
    constructor
    · rintro (hfails | ⟨v, hserved, i, q, hq, hfails, hbefore⟩)
      · exact ⟨0, p, rfl, hfails, fun j hj => absurd hj (Nat.not_lt_zero j)⟩
      · refine ⟨i + 1, q, hq, hfails, fun j hj r hr => ?_⟩
        cases j with
        | zero => exact ⟨v, Option.some.inj hr ▸ hserved⟩
        | succ j => exact hbefore j (Nat.lt_of_succ_lt_succ hj) r hr
    · rintro ⟨i, q, hq, hfails, hbefore⟩
      cases i with
      | zero => exact .inl (Option.some.inj hq ▸ hfails)
      | succ i =>
        obtain ⟨v, hserved⟩ := hbefore 0 (Nat.succ_pos i) p rfl
        exact .inr ⟨v, hserved, i, q, hq, hfails,
          fun j hj => hbefore (j + 1) (Nat.succ_lt_succ hj)⟩

end Param

/-! ### Whole calls -/

section

variable {host method : String} {params : List Param} {args : List Value}

/-- Binding succeeds if there are not too many arguments and each parameter is served. -/
theorem bindArguments_ok_iff {vs : List Value} :
    bindArguments host method params args = .ok vs ↔
      args.length ≤ params.length ∧ vs.length = params.length ∧
        ∀ (i : ℕ) (p : Param), params[i]? = some p → ∃ v, vs[i]? = some v ∧ p.Serves args[i]? v := by
  rw [← @Param.fillAll_ok_iff host method]
  unfold bindArguments
  by_cases h : params.length < args.length
  · rw [if_pos h]
    exact iff_of_false (by simp) fun hle => absurd h (not_lt.2 hle.1)
  · rw [if_neg h, and_iff_right (not_lt.1 h)]

/-- Binding fails if there are too many arguments, and else at the first parameter that is not served. -/
theorem bindArguments_error_iff {e : EvalError} :
    bindArguments host method params args = .error e ↔
      params.length < args.length ∧
        e = .tooManyArguments host method params.length args.length ∨
      args.length ≤ params.length ∧ ∃ (i : ℕ) (p : Param), params[i]? = some p ∧
        p.Fails host method args[i]? e ∧
        ∀ j < i, ∀ q : Param, params[j]? = some q → ∃ v, q.Serves args[j]? v := by
  rw [← Param.fillAll_error_iff]
  unfold bindArguments
  by_cases h : params.length < args.length
  · rw [if_pos h, and_iff_right h, or_iff_left fun hle => absurd h (not_lt.2 hle.1),
      Except.error.injEq, eq_comm]
  · rw [if_neg h, and_iff_right (not_lt.1 h), or_iff_right fun hlt => h hlt.1]

/-- The parameters beyond the arguments have defaults if every parameter is given something. -/
theorem forall_default_iff :
    (∀ p ∈ params.drop args.length, ∃ d, p.default? = some d) ↔
      ∀ (i : ℕ) (p : Param), params[i]? = some p → ∃ v, p.Gives args[i]? v := by
  constructor
  · intro h i p hp
    by_contra hnone
    obtain ⟨harg, hdefault⟩ := Param.not_gives_iff.1 (not_exists.1 hnone)
    have hbeyond : args.length ≤ i := List.getElem?_eq_none_iff.1 harg
    have hmem : p ∈ params.drop args.length := by
      refine List.mem_of_getElem? (i := i - args.length) ?_
      rw [List.getElem?_drop, Nat.add_sub_cancel' hbeyond]
      exact hp
    obtain ⟨d, hd⟩ := h p hmem
    rw [hdefault] at hd
    cases hd
  · intro h p hp
    obtain ⟨i, hi⟩ := List.getElem?_of_mem hp
    rw [List.getElem?_drop] at hi
    obtain ⟨v, hv⟩ := h _ p hi
    rw [List.getElem?_eq_none (Nat.le_add_right ..)] at hv
    exact ⟨v, Param.gives_none.1 hv⟩

end

/-- **Binding arguments, exactly.**  Binding succeeds if there are no more arguments than parameters, each
parameter beyond the arguments has a default, and all values that result are of the declared kinds.  Then
there is one value for each parameter: the argument at its place, truncated if it is a number for an
integer parameter, or the default.  Otherwise the arguments are too many, or the leftmost parameter that
is not filled or gets a value of another kind gives the error. -/
theorem bindArguments_exact (host method : String) (params : List Param) (args : List Value) :
    ((∃ vs, bindArguments host method params args = .ok vs) ↔
      args.length ≤ params.length ∧
      (∀ p ∈ params.drop args.length, ∃ d, p.default? = some d) ∧
      ∀ (i : ℕ) (p : Param) (v : Value),
        params[i]? = some p → p.Gives args[i]? v → p.kind.Admits v) ∧
    (∀ vs, bindArguments host method params args = .ok vs →
      vs.length = params.length ∧
      ∀ (i : ℕ) (p : Param), params[i]? = some p → ∃ v, vs[i]? = some v ∧ p.Gives args[i]? v) ∧
    ∀ e, bindArguments host method params args = .error e ↔
      params.length < args.length ∧
        e = .tooManyArguments host method params.length args.length ∨
      args.length ≤ params.length ∧ ∃ (i : ℕ) (p : Param), params[i]? = some p ∧
        ((∀ v, ¬ p.Gives args[i]? v) ∧ e = .missingArgument host method p.name ∨
          ∃ v, p.Gives args[i]? v ∧ ¬ p.kind.Admits v ∧
            e = .wrongKind method p.name p.kind v.kind) ∧
        ∀ j < i, ∀ q : Param, params[j]? = some q →
          ∃ v, q.Gives args[j]? v ∧ q.kind.Admits v := by
  rw [forall_default_iff]
  refine ⟨⟨?_, ?_⟩, ?_, fun e => bindArguments_error_iff⟩
  · rintro ⟨vs, h⟩
    obtain ⟨hle, -, hall⟩ := bindArguments_ok_iff.1 h
    refine ⟨hle, fun i p hp => ?_, fun i p v hp hv => ?_⟩
    · obtain ⟨v, -, hserved⟩ := hall i p hp
      exact ⟨v, hserved.1⟩
    · obtain ⟨w, -, hserved⟩ := hall i p hp
      rw [hv.unique hserved.1]
      exact hserved.2
  · rintro ⟨hle, hgiven, hkinds⟩
    cases h : bindArguments host method params args with
    | ok vs => exact ⟨vs, rfl⟩
    | error e =>
      exfalso
      rcases bindArguments_error_iff.1 h with
        ⟨hlt, -⟩ | ⟨-, i, p, hp, ⟨hnone, -⟩ | ⟨v, hv, hkind, -⟩, -⟩
      · exact absurd hle (not_le.2 hlt)
      · obtain ⟨v, hv⟩ := hgiven i p hp
        exact hnone v hv
      · exact hkind (hkinds i p v hp hv)
  · intro vs h
    obtain ⟨-, hlength, hall⟩ := bindArguments_ok_iff.1 h
    refine ⟨hlength, fun i p hp => ?_⟩
    obtain ⟨v, hv, hserved⟩ := hall i p hp
    exact ⟨v, hv, hserved.1⟩

end HostExpr
