import Mathlib.Data.List.NodupEquivFin
import HostExpr.Proofs.CallGate

/-!
# Calls run in the order of the source

Which call sites of an expression run, and in which order.

* `Made`: an invocation that a call site makes;
* `Visits`: invocations that are made at call sites of a list, at each one at most once and in the
  order of the list;
* `Comparison.visiting`: every evaluation visits call sites in this way;
* `Expr.calls_in_order`: the invocations of a run, matched with the call sites of the expression.

The call sites of an expression are listed in post-order (`Expr.calls`), those of the branch that a
conditional does not take, of operands behind a short circuit and of function bodies included.  The
invocations are those that `HostInterface.logged` writes down, also in a run that fails.
-/

namespace HostExpr

open Stateful

variable {W α β : Type} (hosts : HostInterface W) (root : Value)

/-! ### Call sites and invocations -/

/-- The invocation is what the call site comes to: its method, called with what its arguments come
to, passes the checks in the state that the arguments leave. -/
inductive Made : Segment → Invocation W → Prop
  | call {ref : HostRef} {method : String} {args : List Expr} {vs bound : List Value} {s s' : W} :
      evalItems hosts root args s = .ok vs s' → Admitted hosts s' ref method vs bound →
      Made (.call method args) ⟨s', ref, method, bound⟩

/-- Invocations made at some of the call sites, in their order and at each one at most once. -/
def Visits (sites : List Segment) (made : List (Invocation W)) : Prop :=
  ∃ used, used.Sublist sites ∧ List.Forall₂ (Made hosts root) used made

namespace Visits

variable {hosts root} {sites sites' : List Segment} {made made' : List (Invocation W)}

theorem nil : Visits hosts root sites [] :=
  ⟨[], List.nil_sublist sites, .nil⟩

theorem append (h : Visits hosts root sites made) (h' : Visits hosts root sites' made') :
    Visits hosts root (sites ++ sites') (made ++ made') := by
  obtain ⟨used, hsub, hmade⟩ := h
  obtain ⟨used', hsub', hmade'⟩ := h'
  exact ⟨used ++ used', hsub.append hsub', List.rel_append hmade hmade'⟩

theorem more (hsites : sites.Sublist sites') (h : Visits hosts root sites made) :
    Visits hosts root sites' made := by
  obtain ⟨used, hsub, hmade⟩ := h
  exact ⟨used, hsub.trans hsites, hmade⟩

/-- The places of the invocations in the list of call sites: one after another, without a place that
is taken twice. -/
theorem exists_place (h : Visits hosts root sites made) :
    ∃ place : Fin made.length ↪o Fin sites.length,
      ∀ i, Made hosts root sites[place i] made[i] := by
  obtain ⟨used, hsub, hmade⟩ := h
  obtain ⟨place, hplace⟩ := List.sublist_iff_exists_fin_orderEmbedding_get_eq.1 hsub
  have hlength : made.length = used.length := hmade.length_eq.symm
  refine ⟨(Fin.castOrderIso hlength).toOrderEmbedding.trans place, fun i => ?_⟩
  have hget : Made hosts root (used.get (Fin.cast hlength i)) made[i] :=
    hmade.get (hlength ▸ i.2) i.2
  rw [hplace] at hget
  exact hget

end Visits

/-! ### Computations -/

/-- With a list of invocations a computation does the same, and adds to the list what it makes at
the given call sites. -/
def VisitsIn (sites : List Segment) (Q : α → Prop) (p : Eval (W × List (Invocation W)) α)
    (q : Eval W α) : Prop :=
  ∀ s log, (∃ made, Visits hosts root sites made ∧ p (s, log) = withLog (log ++ made) (q s)) ∧
    ∀ x t, q s = .ok x t → Q x

namespace VisitsIn

variable {hosts root} {sites sites' : List Segment} {Q : α → Prop} {Q' : β → Prop}

theorem of_result {p : Eval (W × List (Invocation W)) α} {q : Eval W α}
    (h : ∀ s log, p (s, log) = withLog log (q s)) (hQ : ∀ s x t, q s = .ok x t → Q x) :
    VisitsIn hosts root sites Q p q := by
  intro s log
  refine ⟨⟨[], .nil, ?_⟩, hQ s⟩
  rw [List.append_nil]
  exact h s log

theorem bind {p : Eval (W × List (Invocation W)) α} {q : Eval W α}
    {f : α → Eval (W × List (Invocation W)) β} {g : α → Eval W β}
    (hp : VisitsIn hosts root sites Q p q)
    (hf : ∀ x, Q x → VisitsIn hosts root sites' Q' (f x) (g x)) :
    VisitsIn hosts root (sites ++ sites') Q' (p >>= f) (q >>= g) := by
  intro s log
  obtain ⟨⟨made, hmade, heq⟩, hQ⟩ := hp s log
  cases hresult : q s with
  | ok x t =>
    rw [hresult] at heq
    obtain ⟨⟨made', hmade', heq'⟩, hQ'⟩ := hf x (hQ x t hresult) t (log ++ made)
    rw [bind_of_ok hresult, bind_of_ok heq, heq', List.append_assoc]
    exact ⟨⟨made ++ made', hmade.append hmade', rfl⟩, hQ'⟩
  | error e t =>
    rw [hresult] at heq
    rw [bind_of_error hresult, bind_of_error heq]
    exact ⟨⟨made, hmade.more (List.sublist_append_left _ _), rfl⟩, by simp⟩

end VisitsIn

/-- To visit call sites in order is a comparison of computations with and without the list. -/
def Comparison.visiting : Comparison (W × List (Invocation W)) W where
  Holds sites Q p q := VisitsIn hosts root sites Q p q
  pure {α} {_} {Q} {x} hx := .of_result (fun _ _ => rfl) fun _ y _ hy => by
    obtain ⟨rfl, -⟩ := EStateM.Result.ok.inj hy
    exact hx
  throw _ := .of_result (fun _ _ => rfl) fun _ _ _ hx => absurd hx throw_ne_ok
  bind := .bind
  more hsites h s log := by
    obtain ⟨⟨made, hmade, heq⟩, hQ⟩ := h s log
    exact ⟨⟨made, hmade.more hsites, heq⟩, hQ⟩

/-! ### Members and calls -/

/-- A call either makes no invocation, or one that is what its site comes to. -/
theorem call_visits (method : String) {args : List Expr} {vs : List Value} {s s' : W}
    (hargs : evalItems hosts root args s = .ok vs s') (v : Value) (log : List (Invocation W)) :
    ∃ made, Visits hosts root [.call method args] made ∧
      v.call hosts.logged method vs (s', log) =
        withLog (log ++ made) (v.call hosts method vs s') := by
  rcases call_logged_cases hosts v method vs s' with
    rfl | ⟨e, hplain, hlogged⟩ | ⟨ref, bound, -, hpassed, hplain, hlogged⟩
  · exact ⟨[], .nil, by rw [List.append_nil]; rfl⟩
  · refine ⟨[], .nil, ?_⟩
    rw [hplain, hlogged, List.append_nil]
    rfl
  · have hmade : Made hosts root (.call method args) ⟨s', ref, method, bound⟩ :=
      .call hargs hpassed
    refine ⟨_, ⟨_, .refl _, .cons hmade .nil⟩, ?_⟩
    rw [hplain, hlogged]

/-- Reading a member makes no invocation, and a call makes its own after those of its arguments. -/
theorem visiting_respects :
    (Comparison.visiting hosts root).Respects (fun _ => True) hosts.logged hosts root where
  get {v} key _ := by
    exact .of_result (get_logged hosts key v) fun _ _ _ _ => trivial
  call {v} method args _ hargs := by
    rw [Segment.eval, Segment.eval, Segment.calls]
    intro s log
    refine ⟨?_, fun _ _ _ => trivial⟩
    obtain ⟨⟨made, hmade, heq⟩, -⟩ := hargs s log
    cases hresult : evalItems hosts root args s with
    | ok vs t =>
      rw [hresult] at heq
      obtain ⟨made', hmade', heq'⟩ := call_visits hosts root method hresult v (log ++ made)
      rw [bind_of_ok hresult, bind_of_ok heq, heq', List.append_assoc]
      exact ⟨made ++ made', hmade.append hmade', rfl⟩
    | error e t =>
      rw [hresult] at heq
      rw [bind_of_error hresult, bind_of_error heq]
      exact ⟨made, hmade.more (List.sublist_append_left _ _), rfl⟩

/-! ### Whole runs -/

namespace Expr

/-- A run makes its invocations at the call sites of the expression, in their order. -/
theorem run_visits (context : Context) (e : Expr) (state : W) :
    ∃ made, Visits hosts context.root e.calls made ∧
      e.run hosts.logged context (state, []) =
        ((e.run hosts context state).1, (e.run hosts context state).2, made) := by
  have hvisits := eval_holds .true (visiting_respects hosts context.root) trivial e
  obtain ⟨⟨made, hmade, heq⟩, -⟩ := hvisits state []
  refine ⟨made, hmade, ?_⟩
  unfold run
  rw [heq]
  cases e.eval hosts context.root state with
  | ok v s => rfl
  | error error s => rfl

/-- **Each call site runs at most once and in source order.**  The invocations of a run, whether it
fails or not, have places among the call sites of the expression, listed in post-order: each
invocation is what the call site at its place comes to, and a later invocation has a later place. -/
theorem calls_in_order (context : Context) (e : Expr) (state : W) :
    ∃ made, e.run hosts.logged context (state, []) =
        ((e.run hosts context state).1, (e.run hosts context state).2, made) ∧
      ∃ place : Fin made.length ↪o Fin e.calls.length,
        ∀ i, Made hosts context.root e.calls[place i] made[i] := by
  obtain ⟨made, hmade, heq⟩ := run_visits hosts context e state
  exact ⟨made, heq, hmade.exists_place⟩

end Expr

end HostExpr
