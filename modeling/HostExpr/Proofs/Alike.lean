import HostExpr.Proofs.Comparison

/-!
# Evaluations that run alike

Two interfaces to host objects, over states of two kinds, between which an evaluation cannot tell.

* `SameResult`: two results with the same value or the same error, in related states;
* `Alike`: two computations that have the same result from related states on;
* `AlikeIn`: the same, with a property that the result has;
* `Expr.eval_alikeIn`, `Expr.run_alikeIn`: if members and calls are alike for two interfaces, on
  values with a property, so is every evaluation that starts at such a value;
* `Expr.run_alike`: the same for all values.

Of the two interfaces one may keep a record that the other does not keep; what is kept is then said
by the relation between the states.
-/

namespace HostExpr

variable {W W' α β : Type}

/-! ### Results and computations -/

/-- The same value or the same error, in related states. -/
inductive SameResult (R : W → W' → Prop) :
    EStateM.Result EvalError W α → EStateM.Result EvalError W' α → Prop
  | ok {x : α} {s : W} {s' : W'} : R s s' → SameResult R (.ok x s) (.ok x s')
  | error {e : EvalError} {s : W} {s' : W'} : R s s' → SameResult R (.error e s) (.error e s')

/-- Two computations that have the same result from related states on. -/
def Alike (R : W → W' → Prop) (p : Eval W α) (q : Eval W' α) : Prop :=
  ∀ s s', R s s' → SameResult R (p s) (q s')

/-- Two computations that have the same result from related states on, and the result has a
property. -/
def AlikeIn (R : W → W' → Prop) (Q : α → Prop) (p : Eval W α) (q : Eval W' α) : Prop :=
  ∀ s s', R s s' → SameResult R (p s) (q s') ∧ ∀ x t, p s = .ok x t → Q x

namespace Alike

variable {R : W → W' → Prop}

theorem pure (x : α) : Alike R (pure x) (pure x) :=
  fun _ _ h => .ok h

theorem throw (e : EvalError) : Alike (α := α) R (throw e) (throw e) :=
  fun _ _ h => .error h

theorem ofExcept (r : Except EvalError α) : Alike R (Eval.ofExcept r) (Eval.ofExcept r) := by
  cases r with
  | ok x => exact pure x
  | error e => exact throw e

end Alike

namespace AlikeIn

variable {R : W → W' → Prop} {Q : α → Prop} {Q' : β → Prop}

theorem pure {x : α} (hx : Q x) : AlikeIn R Q (pure x) (pure x) := by
  intro s s' h
  refine ⟨.ok h, fun y t hy => ?_⟩
  obtain ⟨rfl, -⟩ := EStateM.Result.ok.inj hy
  exact hx

theorem throw (e : EvalError) : AlikeIn R Q (throw e) (throw e) := by
  intro s s' h
  exact ⟨.error h, fun x t hx => absurd hx (by rintro ⟨⟩)⟩

theorem bind {p : Eval W α} {q : Eval W' α} {f : α → Eval W β} {g : α → Eval W' β}
    (hp : AlikeIn R Q p q) (hf : ∀ x, Q x → AlikeIn R Q' (f x) (g x)) :
    AlikeIn R Q' (p >>= f) (q >>= g) := by
  intro s s' h
  obtain ⟨hresult, hQ⟩ := hp s s' h
  show SameResult R (EStateM.bind p f s) (EStateM.bind q g s') ∧
    ∀ y t, EStateM.bind p f s = .ok y t → Q' y
  unfold EStateM.bind
  generalize p s = r at hresult hQ
  generalize q s' = r' at hresult
  cases hresult with
  | ok hstate => exact hf _ (hQ _ _ rfl) _ _ hstate
  | error hstate => exact ⟨.error hstate, fun y t hy => absurd hy (by simp)⟩

end AlikeIn

/-- To run alike is a comparison of computations, whatever calls they have. -/
def Comparison.alike (R : W → W' → Prop) : Comparison W W' where
  Holds _ Q p q := AlikeIn R Q p q
  pure := .pure
  throw := .throw
  bind := .bind
  more _ h := h

/-! ### Expressions -/

/-- Two interfaces whose members and calls are alike. -/
structure AlikeHosts (R : W → W' → Prop) (hosts : HostInterface W) (hosts' : HostInterface W') :
    Prop where
  get : ∀ (v : Value) (key : Key), Alike R (v.get hosts key) (v.get hosts' key)
  call : ∀ (v : Value) (method : String) (args : List Value),
    Alike R (v.call hosts method args) (v.call hosts' method args)

/-- Two interfaces whose members and calls are alike on values with a property, and give values with
this property. -/
structure AlikeHostsIn (R : W → W' → Prop) (V : Value → Prop) (hosts : HostInterface W)
    (hosts' : HostInterface W') : Prop where
  get {v : Value} (key : Key) : V v → AlikeIn R V (v.get hosts key) (v.get hosts' key)
  call {v : Value} (method : String) {args : List Value} : V v → (∀ a ∈ args, V a) →
    AlikeIn R V (v.call hosts method args) (v.call hosts' method args)

namespace Expr

variable {R : W → W' → Prop} {V : Value → Prop} {hosts : HostInterface W}
  {hosts' : HostInterface W'}

/-- Every evaluation is alike for two interfaces that are alike on values with a property, if it
starts at such a value. -/
theorem eval_alikeIn (hV : Structural V) (h : AlikeHostsIn R V hosts hosts') {root : Value}
    (hroot : V root) (e : Expr) : AlikeIn R V (e.eval hosts root) (e.eval hosts' root) := by
  refine eval_holds (L := .alike R) hV ⟨h.get, fun {v} method args hv hargs => ?_⟩ hroot e
  rw [Segment.eval, Segment.eval]
  exact AlikeIn.bind hargs fun vs hvs => h.call method hv hvs

/-- A run has the same result with two interfaces that are alike on values with a property, and its
value has the property. -/
theorem run_alikeIn (hV : Structural V) (h : AlikeHostsIn R V hosts hosts') {context : Context}
    (hroot : V context.root) (e : Expr) {s : W} {s' : W'} (hs : R s s') :
    (e.run hosts context s).1 = (e.run hosts' context s').1 ∧
      R (e.run hosts context s).2 (e.run hosts' context s').2 ∧
      ∀ v, (e.run hosts context s).1 = .ok v → V v := by
  obtain ⟨hresult, hvalue⟩ := eval_alikeIn hV h hroot e s s' hs
  unfold run
  generalize e.eval hosts context.root s = r at hresult hvalue
  generalize e.eval hosts' context.root s' = r' at hresult
  cases hresult with
  | @ok v t t' hstate =>
    refine ⟨rfl, hstate, ?_⟩
    rintro _ ⟨⟩
    exact hvalue v t rfl
  | error hstate => exact ⟨rfl, hstate, by rintro _ ⟨⟩⟩

/-- A run has the same result with two interfaces whose members and calls are alike. -/
theorem run_alike (h : AlikeHosts R hosts hosts') (context : Context) (e : Expr) {s : W} {s' : W'}
    (hs : R s s') :
    (e.run hosts context s).1 = (e.run hosts' context s').1 ∧
      R (e.run hosts context s).2 (e.run hosts' context s').2 := by
  have hall : AlikeHostsIn R (fun _ => True) hosts hosts' :=
    ⟨fun key _ s s' hs => ⟨h.get _ key s s' hs, fun _ _ _ => trivial⟩,
      fun method _ _ _ s s' hs => ⟨h.call _ method _ s s' hs, fun _ _ _ => trivial⟩⟩
  obtain ⟨hvalue, hstate, -⟩ := run_alikeIn .true hall trivial e hs
  exact ⟨hvalue, hstate⟩

end Expr

end HostExpr
