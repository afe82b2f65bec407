import HostExpr.Proofs.CallGate

/-!
# Properties that runs keep

A property of values that host objects keep is kept by every run.

* `Hereditary.lookup`: what is found in a value has the properties of the value;
* `Hereditary.bindArguments`: binding arguments adds nothing but the defaults;
* `Guarded`: host objects that give values with a property only, if they receive no others;
* `Guarded.run_keeps`: a run that starts at a value with the property has such a value, passes only such
  arguments to methods, and leaves a state in which the objects are guarded.

The property is a hereditary one, and it may tell host objects apart.  The states in which the objects are
guarded are those of an invariant, which the methods keep.
-/

namespace HostExpr

variable {W : Type} {V : Value → Prop}

/-! ### Values -/

namespace Hereditary

/-- An optional value, with null in place of none. -/
theorem getD (hV : Hereditary V) {v? : Option Value} (h : ∀ v, v? = some v → V v) :
    V (v?.getD .null) := by
  cases v? with
  | none => exact hV.null
  | some v => exact h v rfl

/-- What is found in a value under a key is part of it, or a member of the host object that it is. -/
theorem lookup (hV : Hereditary V) {hosts : HostInterface W} {state : W} {key : Key} {v w : Value}
    (hmember : ∀ ref, v = .host ref → ∀ name x, hosts.member? state ref name = some x → V x)
    (hv : V v) (h : v.lookup hosts state key = .ok w) : V w := by
  cases v with
  | null =>
    obtain rfl := Except.ok.inj h
    exact hV.null
  | map entries =>
    obtain rfl := Except.ok.inj h
    exact hV.getD fun x hx => hV.entry hv (Entries.mem_of_find? hx)
  | list items =>
    obtain rfl := Except.ok.inj h
    refine hV.getD fun x hx => ?_
    obtain ⟨i, -, hi⟩ := Option.bind_eq_some_iff.1 hx
    exact hV.item hv (List.mem_of_getElem? hi)
  | host ref =>
    obtain rfl := Except.ok.inj h
    exact hV.getD fun x hx => hmember ref rfl _ x hx
  | boolean _ | number _ | text _ => exact absurd h (by rintro ⟨⟩)

/-! ### Arguments -/

theorem convert (hV : Hereditary V) (kind : ParamKind) {v : Value} (h : V v) : V (kind.convert v) := by
  unfold ParamKind.convert
  split
  · exact hV.number _
  · exact h

theorem fill (hV : Hereditary V) {host method : String} {param : Param} {arg? : Option Value} {v : Value}
    (harg : ∀ a, arg? = some a → V a) (hdefault : ∀ d, param.default? = some d → V d)
    (h : param.fill host method arg? = .ok v) : V v := by
  unfold Param.fill at h
  split at h
  · exact absurd h (by simp)
  · next w hw =>
    split at h
    · obtain rfl : w = v := Except.ok.inj h
      cases arg? with
      | none => exact hdefault w hw
      | some a =>
        obtain rfl : param.kind.convert a = w := Option.some.inj hw
        exact hV.convert param.kind (harg a rfl)
    · exact absurd h (by simp)

theorem fillAll (hV : Hereditary V) {host method : String} {params : List Param}
    (hdefault : ∀ p ∈ params, ∀ d, p.default? = some d → V d) :
    ∀ {args vs : List Value}, (∀ a ∈ args, V a) → Param.fillAll host method params args = .ok vs →
      ∀ v ∈ vs, V v := by
  induction params with
  | nil =>
    intro args vs _ h
    obtain rfl : [] = vs := Except.ok.inj h
    simp
  | cons param params ih =>
    intro args vs hargs h
    rw [Param.fillAll] at h
    cases hv : param.fill host method args.head? with
    | error e =>
      rw [hv] at h
      exact absurd h (by simp [bind, Except.bind])
    | ok v =>
      rw [hv] at h
      cases hvs : Param.fillAll host method params args.tail with
      | error e =>
        rw [hvs] at h
        exact absurd h (by simp [bind, Except.bind])
      | ok ws =>
        rw [hvs] at h
        obtain rfl : v :: ws = vs := Except.ok.inj h
        have hhead : V v :=
          hV.fill (fun a ha => hargs a (List.mem_of_head? ha))
            (hdefault param (List.mem_cons_self ..)) hv
        have htail : ∀ w ∈ ws, V w :=
          ih (fun p hp => hdefault p (List.mem_cons_of_mem _ hp))
            (fun a ha => hargs a (List.mem_of_mem_tail ha)) hvs
        exact List.forall_mem_cons.2 ⟨hhead, htail⟩

/-- Binding arguments adds nothing but the defaults. -/
theorem bindArguments (hV : Hereditary V) {host method : String} {params : List Param}
    {args vs : List Value} (hdefault : ∀ p ∈ params, ∀ d, p.default? = some d → V d)
    (hargs : ∀ a ∈ args, V a) (h : HostExpr.bindArguments host method params args = .ok vs) :
    ∀ v ∈ vs, V v := by
  unfold HostExpr.bindArguments at h
  split at h
  · exact absurd h (by simp)
  · exact hV.fillAll hdefault hargs h

end Hereditary

/-! ### Guarded host objects -/

/-- The object and the arguments of an invocation have a property. -/
def Invocation.Has (V : Value → Prop) (c : Invocation W) : Prop :=
  V (.host c.ref) ∧ ∀ a ∈ c.args, V a

/-- In the states of an invariant, the host objects with a property give values with this property only,
if they receive no others, and their methods keep the invariant. -/
structure Guarded (hosts : HostInterface W) (I : W → Prop) (V : Value → Prop) : Prop where
  member {s : W} {ref : HostRef} {name : String} {v : Value} :
    I s → V (.host ref) → hosts.member? s ref name = some v → V v
  default {s : W} {ref : HostRef} {method : String} {params : List Param} {p : Param} {d : Value} :
    I s → V (.host ref) → hosts.params? s ref method = some params → p ∈ params →
      p.default? = some d → V d
  result {c : Invocation W} {v : Value} {s : W} :
    I c.before → c.Has V → hosts.invoke c.ref c.method c.args c.before = .ok v s → V v
  after {c : Invocation W} : I c.before → c.Has V → I (c.after hosts)

namespace Guarded

variable {hosts : HostInterface W} {I : W → Prop}

theorem get_keeps (h : Guarded hosts I V) (hV : Hereditary V) {s : W} (hs : I s) {key : Key}
    {v w : Value} (hv : V v) (hw : v.lookup hosts s key = .ok w) : V w := by
  refine hV.lookup (fun ref href name x hx => ?_) hv hw
  exact h.member hs (href ▸ hv) hx

/-- An admitted call of an object with the property is an invocation with the property. -/
theorem admitted_has (h : Guarded hosts I V) (hV : Hereditary V) {s : W} {ref : HostRef}
    {method : String} {args bound : List Value} (hs : I s) (href : V (.host ref))
    (hargs : ∀ a ∈ args, V a) (hpassed : Admitted hosts s ref method args bound) :
    Invocation.Has V ⟨s, ref, method, bound⟩ := by
  obtain ⟨-, params, hparams, hbind⟩ := hpassed
  exact ⟨href, hV.bindArguments (fun p hp d hd => h.default hs href hparams hp hd) hargs hbind⟩

/-- A state of the invariant, and the same state with a list of invocations with the property. -/
def Kept (I : W → Prop) (V : Value → Prop) (s : W × List (Invocation W)) (state : W) : Prop :=
  s.1 = state ∧ I state ∧ ∀ c ∈ s.2, c.Has V

theorem kept_get (h : Guarded hosts I V) (hV : Hereditary V) {v : Value} (key : Key) (hv : V v) :
    AlikeIn (Kept I V) V (v.get hosts.logged key) (v.get hosts key) := by
  rintro ⟨s, log⟩ _ ⟨rfl, hs, hlog⟩
  rw [get_logged, Value.get_apply]
  cases hw : v.lookup hosts s key with
  | ok w =>
    refine ⟨sameResult_withLog ⟨rfl, hs, hlog⟩, ?_⟩
    rintro x t ⟨⟩
    exact h.get_keeps hV hs hv hw
  | error e => exact ⟨sameResult_withLog ⟨rfl, hs, hlog⟩, by rintro x t ⟨⟩⟩

theorem kept_call (h : Guarded hosts I V) (hV : Hereditary V) {v : Value} (method : String)
    {args : List Value} (hv : V v) (hargs : ∀ a ∈ args, V a) :
    AlikeIn (Kept I V) V (v.call hosts.logged method args) (v.call hosts method args) := by
  rintro ⟨s, log⟩ _ ⟨rfl, hs, hlog⟩
  rcases call_logged_cases hosts v method args s with
    rfl | ⟨e, hplain, hlogged⟩ | ⟨ref, bound, rfl, hpassed, hplain, hlogged⟩
  · exact AlikeIn.pure hV.null _ _ ⟨rfl, hs, hlog⟩
  · rw [hplain, hlogged]
    exact ⟨.error ⟨rfl, hs, hlog⟩, by rintro x t ⟨⟩⟩
  · have hcall := h.admitted_has hV hs hv hargs hpassed
    have hmore : ∀ c ∈ log ++ [⟨s, ref, method, bound⟩], c.Has V := by
      intro c hc
      rcases List.mem_append.1 hc with hc | hc
      · exact hlog c hc
      · exact List.eq_of_mem_singleton hc ▸ hcall
    rw [hplain, hlogged]
    refine ⟨sameResult_withLog ⟨rfl, h.after hs hcall, hmore⟩, ?_⟩
    cases hresult : hosts.invoke ref method bound s with
    | ok w t =>
      rintro x t' ⟨⟩
      exact h.result hs hcall hresult
    | error e t => rintro x t' ⟨⟩

/-- **Runs keep what host objects keep.**  In a run that starts at a value with the property, among host
objects that are guarded, the value has the property, the invariant holds afterwards, and every argument
that a method receives has the property; all methods that run are methods of objects with the property. -/
theorem run_keeps (h : Guarded hosts I V) (hV : Hereditary V) {context : Context}
    (hroot : V context.root) (e : Expr) {state : W} (hstate : I state) :
    (∀ v, (e.run hosts context state).1 = .ok v → V v) ∧ I (e.run hosts context state).2 ∧
      ∃ calls, e.run hosts.logged context (state, []) =
          ((e.run hosts context state).1, (e.run hosts context state).2, calls) ∧
        ∀ c ∈ calls, c.Has V := by
  have halike : AlikeHostsIn (Kept I V) V hosts.logged hosts := ⟨h.kept_get hV, h.kept_call hV⟩
  have hstart : Kept I V (state, []) state := ⟨rfl, hstate, by simp⟩
  obtain ⟨hvalue, ⟨hafter, hinvariant, hcalls⟩, hkept⟩ :=
    Expr.run_alikeIn hV.toStructural halike hroot e hstart
  refine ⟨fun v hv => hkept v (hvalue.trans hv), hinvariant, _, ?_, hcalls⟩
  exact Prod.ext hvalue (Prod.ext hafter rfl)

end Guarded

end HostExpr
