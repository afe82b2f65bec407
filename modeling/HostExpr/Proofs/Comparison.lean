import HostExpr.Eval
import HostExpr.Proofs.Grammar

/-!
# Comparing evaluations

What members and calls of host objects keep, every evaluation keeps.  The induction over the syntax
is done here once, for any two interfaces to host objects and any way to compare computations.

* `Expr.calls`: the call sites of an expression in post-order, in which the arguments of a call
  stand before the call and all branches are counted;
* `Comparison`: a relation between computations that holds of results, errors and sequences;
* `Structural`: a property that values have as soon as all their parts have it, and `Hereditary`, one that
  their parts have as well;
* `Expr.eval_holds`: a comparison that holds of members and calls holds of every evaluation.

A comparison may depend on the call sites that the computations have in their text.  It is told more
sites than are run, as those behind a short circuit are counted as well.
-/

namespace HostExpr

/-! ### Call sites -/

mutual

/-- The call sites of an expression in the order of the source, each one after its arguments. -/
def Expr.calls : Expr → List Segment
  | .cond test yes no => test.calls ++ (yes.calls ++ no.calls)
  | .any first rest => first.calls ++ rest.flatMap Expr.calls
  | .all first rest => first.calls ++ rest.flatMap Expr.calls
  | .compare _ left right => left.calls ++ right.calls
  | .sum first rest => first.calls ++ rest.flatMap fun t => t.2.calls
  | .product first rest => first.calls ++ rest.flatMap fun t => t.2.calls
  | .function _ body => body.calls
  | .wrapped inner => inner.calls
  | .not operand => operand.calls
  | .list items => items.flatMap Expr.calls
  | .map entries => entries.flatMap fun t => t.2.calls
  | .boolean _ => []
  | .number _ => []
  | .text _ => []
  | .path segments => segments.flatMap Segment.calls
  termination_by e => sizeOf e
  decreasing_by
    all_goals simp_wf
    all_goals first
      | omega
      | have := List.sizeOf_lt_of_mem ‹_ ∈ _›; omega
      | have := sizeOf_snd_lt_of_mem ‹_ ∈ _›; omega

/-- The call sites of a step of a path; a call is the last of its own sites. -/
def Segment.calls : Segment → List Segment
  | .name _ => []
  | .key offset => offset.calls
  | .call method args => args.flatMap Expr.calls ++ [.call method args]
  termination_by s => sizeOf s

end

variable {W W' α β : Type}

/-! ### Comparisons -/

/-- A relation between computations over states of two kinds, with a property `Q` of the results.
It holds of results and errors, and of computations one after the other. -/
structure Comparison (W W' : Type) where
  Holds {α : Type} (calls : List Segment) (Q : α → Prop) (p : Eval W α) (q : Eval W' α) : Prop
  pure {α : Type} {calls : List Segment} {Q : α → Prop} {x : α} :
    Q x → Holds calls Q (pure x) (pure x)
  throw {α : Type} {calls : List Segment} {Q : α → Prop} (e : EvalError) :
    Holds calls Q (throw e) (throw e)
  bind {α β : Type} {calls calls' : List Segment} {Q : α → Prop} {Q' : β → Prop} {p : Eval W α}
    {q : Eval W' α} {f : α → Eval W β} {g : α → Eval W' β} :
    Holds calls Q p q → (∀ x, Q x → Holds calls' Q' (f x) (g x)) →
      Holds (calls ++ calls') Q' (p >>= f) (q >>= g)
  more {α : Type} {calls calls' : List Segment} {Q : α → Prop} {p : Eval W α} {q : Eval W' α} :
    calls.Sublist calls' → Holds calls Q p q → Holds calls' Q p q

namespace Comparison

variable (L : Comparison W W') {calls : List Segment} {Q : α → Prop} {Q' : β → Prop}
  {p : Eval W α} {q : Eval W' α} {f : α → Eval W β} {g : α → Eval W' β}

/-- A computation without call sites, and what comes after it. -/
theorem bind_of_nil (h : L.Holds [] Q p q) (hf : ∀ x, Q x → L.Holds calls Q' (f x) (g x)) :
    L.Holds calls Q' (p >>= f) (q >>= g) :=
  L.bind h hf

/-- A computation that is followed by one without call sites. -/
theorem bind_nil (h : L.Holds calls Q p q) (hf : ∀ x, Q x → L.Holds [] Q' (f x) (g x)) :
    L.Holds calls Q' (p >>= f) (q >>= g) := by
  have hall := L.bind h hf
  rw [List.append_nil] at hall
  exact hall

theorem ofExcept {r : Except EvalError α} (h : ∀ x, r = .ok x → Q x) :
    L.Holds calls Q (Eval.ofExcept r) (Eval.ofExcept r) := by
  cases r with
  | ok x => exact L.pure (h x rfl)
  | error e => exact L.throw e

end Comparison

/-! ### Properties of values -/

/-- A property of values that plain values have, lists if all their items have it, and maps if all the
values have it that their keys are bound to.  Nothing is said about host objects. -/
structure Structural (V : Value → Prop) : Prop where
  null : V .null
  boolean (b : Bool) : V (.boolean b)
  number (x : Float) : V (.number x)
  text (s : String) : V (.text s)
  list {vs : List Value} : (∀ v ∈ vs, V v) → V (.list vs)
  map {pairs : List (String × Value)} : (∀ t ∈ pairs, V t.2) → V (.map (Entries.ofPairs pairs))

/-- A structural property that the parts of a value have with the value. -/
structure Hereditary (V : Value → Prop) : Prop extends Structural V where
  item {items : List Value} {v : Value} : V (.list items) → v ∈ items → V v
  entry {entries : List (String × Value)} {t : String × Value} : V (.map entries) → t ∈ entries → V t.2

theorem Structural.true : Structural fun _ => True where
  null := trivial
  boolean _ := trivial
  number _ := trivial
  text _ := trivial
  list _ := trivial
  map _ := trivial

theorem Structural.running {V : Value → Prop} (h : Structural V) (running : Running) :
    V running.value := by
  cases running with
  | total x => exact h.number x
  | joined s => exact h.text s

/-! ### Expressions -/

/-- A comparison holds of the members that two interfaces give, and of their calls as soon as it
holds of the arguments. -/
structure Comparison.Respects (L : Comparison W W') (V : Value → Prop) (hosts : HostInterface W)
    (hosts' : HostInterface W') (root : Value) : Prop where
  get {v : Value} (key : Key) : V v → L.Holds [] V (v.get hosts key) (v.get hosts' key)
  call {v : Value} (method : String) {args : List Expr} : V v →
    L.Holds (args.flatMap Expr.calls) (fun vs => ∀ w ∈ vs, V w) (evalItems hosts root args)
      (evalItems hosts' root args) →
    L.Holds (Segment.call method args).calls V ((Segment.call method args).eval hosts root v)
      ((Segment.call method args).eval hosts' root v)

section

variable {L : Comparison W W'} {V : Value → Prop} {hosts : HostInterface W}
  {hosts' : HostInterface W'} {root : Value}

mutual

/-- A comparison that holds of members and calls holds of every evaluation, and so does a property
of values that the root, the members and the results of calls have. -/
theorem Expr.eval_holds (hV : Structural V) (h : L.Respects V hosts hosts' root) (hroot : V root) :
    ∀ e : Expr, L.Holds e.calls V (e.eval hosts root) (e.eval hosts' root)
  | .cond test yes no => by
    rw [Expr.eval, Expr.eval, Expr.calls]
    refine L.bind (Expr.eval_holds hV h hroot test) fun v _ => ?_
    match v with
    | .boolean true =>
      exact L.more (List.sublist_append_left _ _) (Expr.eval_holds hV h hroot yes)
    | .boolean false =>
      exact L.more (List.sublist_append_right _ _) (Expr.eval_holds hV h hroot no)
    | .null | .number _ | .text _ | .list _ | .map _ | .host _ => exact L.throw _
  | .any first rest => by
    rw [Expr.eval, Expr.eval, Expr.calls]
    exact L.bind (Expr.eval_holds hV h hroot first) fun v hv => evalAny_holds hV h hroot hv rest
  | .all first rest => by
    have hrest := fun v hv => evalAll_holds hV h hroot (v := v) hv rest
    rw [Expr.eval, Expr.eval, Expr.calls]
    refine L.bind (Expr.eval_holds hV h hroot first) fun v hv => ?_
    cases rest with
    | nil => exact L.pure hv
    | cons e es => exact hrest v hv
  | .compare op left right => by
    rw [Expr.eval, Expr.eval, Expr.calls]
    refine L.bind (Expr.eval_holds hV h hroot left) fun v _ => ?_
    exact L.bind_nil (Expr.eval_holds hV h hroot right) fun w _ => L.pure (hV.boolean _)
  | .sum first rest => by
    have hrest := fun running => evalSum_holds hV h hroot running rest
    rw [Expr.eval, Expr.eval, Expr.calls]
    refine L.bind (Expr.eval_holds hV h hroot first) fun v hv => ?_
    cases rest with
    | nil => exact L.pure hv
    | cons t ts => exact L.bind_nil (hrest (.start v)) fun running _ => L.pure (hV.running running)
  | .product first rest => by
    have hrest := fun x => evalProduct_holds hV h hroot x rest
    rw [Expr.eval, Expr.eval, Expr.calls]
    refine L.bind (Expr.eval_holds hV h hroot first) fun v hv => ?_
    cases rest with
    | nil => exact L.pure hv
    | cons t ts =>
      refine L.bind_of_nil (L.ofExcept fun _ _ => trivial) fun x (_ : True) => ?_
      exact L.bind_nil (hrest x) fun y _ => L.pure (hV.number y)
  | .function _ _ => by
    rw [Expr.eval, Expr.eval]
    exact L.throw _
  | .wrapped inner => by
    rw [Expr.eval, Expr.eval, Expr.calls]
    exact Expr.eval_holds hV h hroot inner
  | .not operand => by
    rw [Expr.eval, Expr.eval, Expr.calls]
    refine L.bind_nil (Expr.eval_holds hV h hroot operand) fun v _ => ?_
    match v with
    | .boolean b => exact L.pure (hV.boolean _)
    | .null | .number _ | .text _ | .list _ | .map _ | .host _ => exact L.throw _
  | .list items => by
    rw [Expr.eval, Expr.eval, Expr.calls]
    exact L.bind_nil (evalItems_holds hV h hroot items) fun vs hvs => L.pure (hV.list hvs)
  | .map entries => by
    rw [Expr.eval, Expr.eval, Expr.calls]
    exact L.bind_nil (evalEntries_holds hV h hroot entries) fun vs hvs => L.pure (hV.map hvs)
  | .boolean b => by
    rw [Expr.eval, Expr.eval]
    exact L.pure (hV.boolean b)
  | .number x => by
    rw [Expr.eval, Expr.eval]
    exact L.pure (hV.number x)
  | .text s => by
    rw [Expr.eval, Expr.eval]
    exact L.pure (hV.text s)
  | .path segments => by
    rw [Expr.eval, Expr.eval, Expr.calls]
    exact evalPath_holds hV h hroot hroot segments

theorem evalAny_holds (hV : Structural V) (h : L.Respects V hosts hosts' root) (hroot : V root)
    {v : Value} (hv : V v) :
    ∀ es : List Expr,
      L.Holds (es.flatMap Expr.calls) V (evalAny hosts root v es) (evalAny hosts' root v es)
  | [] => by
    rw [evalAny, evalAny]
    exact L.pure hv
  | e :: es => by
    rw [evalAny, evalAny, List.flatMap_cons]
    split
    · exact L.bind (Expr.eval_holds hV h hroot e) fun w hw => evalAny_holds hV h hroot hw es
    · exact L.pure hv

theorem evalAll_holds (hV : Structural V) (h : L.Respects V hosts hosts' root) (hroot : V root)
    {v : Value} (hv : V v) :
    ∀ es : List Expr,
      L.Holds (es.flatMap Expr.calls) V (evalAll hosts root v es) (evalAll hosts' root v es)
  | [] => by
    rw [evalAll, evalAll]
    split
    · exact L.pure hv
    · exact L.pure hV.null
  | e :: es => by
    rw [evalAll, evalAll, List.flatMap_cons]
    split
    · exact L.bind (Expr.eval_holds hV h hroot e) fun w hw => evalAll_holds hV h hroot hw es
    · exact L.pure hV.null

theorem evalSum_holds (hV : Structural V) (h : L.Respects V hosts hosts' root) (hroot : V root)
    (running : Running) :
    ∀ ts : List (AddOp × Expr),
      L.Holds (ts.flatMap fun t => t.2.calls) (fun _ => True) (evalSum hosts root running ts)
        (evalSum hosts' root running ts)
  | [] => by
    rw [evalSum, evalSum]
    exact L.pure trivial
  | (op, e) :: ts => by
    rw [evalSum, evalSum, List.flatMap_cons]
    refine L.bind (Expr.eval_holds hV h hroot e) fun v _ => ?_
    exact evalSum_holds hV h hroot (running.step op v) ts

theorem evalProduct_holds (hV : Structural V) (h : L.Respects V hosts hosts' root) (hroot : V root)
    (x : Float) :
    ∀ ts : List (MulOp × Expr),
      L.Holds (ts.flatMap fun t => t.2.calls) (fun _ => True) (evalProduct hosts root x ts)
        (evalProduct hosts' root x ts)
  | [] => by
    rw [evalProduct, evalProduct]
    exact L.pure trivial
  | (op, e) :: ts => by
    rw [evalProduct, evalProduct, List.flatMap_cons]
    refine L.bind (Expr.eval_holds hV h hroot e) fun v _ => ?_
    refine L.bind_of_nil (L.ofExcept fun _ _ => trivial) fun y (_ : True) => ?_
    exact evalProduct_holds hV h hroot (op.apply x y) ts

theorem evalItems_holds (hV : Structural V) (h : L.Respects V hosts hosts' root) (hroot : V root) :
    ∀ es : List Expr,
      L.Holds (es.flatMap Expr.calls) (fun vs => ∀ v ∈ vs, V v) (evalItems hosts root es)
        (evalItems hosts' root es)
  | [] => by
    rw [evalItems, evalItems]
    exact L.pure (by simp)
  | e :: es => by
    rw [evalItems, evalItems, List.flatMap_cons]
    refine L.bind (Expr.eval_holds hV h hroot e) fun v hv => ?_
    refine L.bind_nil (evalItems_holds hV h hroot es) fun vs hvs => L.pure ?_
    exact List.forall_mem_cons.2 ⟨hv, hvs⟩

theorem evalEntries_holds (hV : Structural V) (h : L.Respects V hosts hosts' root)
    (hroot : V root) :
    ∀ ts : List (String × Expr),
      L.Holds (ts.flatMap fun t => t.2.calls) (fun us => ∀ u ∈ us, V u.2)
        (evalEntries hosts root ts) (evalEntries hosts' root ts)
  | [] => by
    rw [evalEntries, evalEntries]
    exact L.pure (by simp)
  | (key, e) :: ts => by
    rw [evalEntries, evalEntries, List.flatMap_cons]
    refine L.bind (Expr.eval_holds hV h hroot e) fun v hv => ?_
    refine L.bind_nil (evalEntries_holds hV h hroot ts) fun us hus => L.pure ?_
    exact List.forall_mem_cons.2 ⟨hv, hus⟩

theorem evalPath_holds (hV : Structural V) (h : L.Respects V hosts hosts' root) (hroot : V root)
    {v : Value} (hv : V v) :
    ∀ ss : List Segment,
      L.Holds (ss.flatMap Segment.calls) V (evalPath hosts root v ss) (evalPath hosts' root v ss)
  | [] => by
    rw [evalPath, evalPath]
    exact L.pure hv
  | s :: ss => by
    rw [evalPath, evalPath, List.flatMap_cons]
    split
    · exact L.pure hV.null
    · exact L.bind (Segment.eval_holds hV h hroot hv s) fun w hw => evalPath_holds hV h hroot hw ss

theorem Segment.eval_holds (hV : Structural V) (h : L.Respects V hosts hosts' root) (hroot : V root)
    {v : Value} (hv : V v) :
    ∀ s : Segment, L.Holds s.calls V (s.eval hosts root v) (s.eval hosts' root v)
  | .name name => by
    rw [Segment.eval, Segment.eval, Segment.calls]
    exact h.get (.name name) hv
  | .key offset => by
    rw [Segment.eval, Segment.eval, Segment.calls]
    refine L.bind_nil (Expr.eval_holds hV h hroot offset) fun w _ => ?_
    refine L.bind_of_nil (L.ofExcept fun _ _ => trivial) fun key (_ : True) => ?_
    exact h.get key hv
  | .call method args => h.call method hv (evalItems_holds hV h hroot args)

end

end

end HostExpr
