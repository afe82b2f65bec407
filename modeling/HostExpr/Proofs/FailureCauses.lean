import HostExpr.Eval
import HostExpr.Host.Object
import HostExpr.Proofs.Parts
import HostExpr.Proofs.Stateful

/-!
# Where an evaluation can fail

Without calls of host objects, each kind of error needs a place in the expression that can raise it.

* `EvalError.cause`: the kind of an error;
* `Expr.nodes`: an expression and all expressions inside it;
* `Expr.Explains`: what an expression has to contain, or what the root has to be, for errors of a kind;
* `Raises`: a computation that fails with errors of some kinds only, with one rule for each way to put
  computations together;
* `Expr.eval_raises`: an evaluation without calls raises what the expression explains;
* `Expr.Plain`: expressions in which nothing can fail;
* `Expr.failures_explained`: both together, for whole runs.

Function bodies and the branch that a conditional does not take count as contained, although an
evaluation does not get to them.
-/

namespace HostExpr

open Stateful

/-! ### Kinds of errors -/

/-- The kinds of errors.  Whatever is wrong with an argument that there is counts as one kind. -/
inductive EvalError.Cause where
  | typeMismatch
  | notANumber
  | notNavigable
  | invalidKey
  | notCallable
  | methodNotAllowed
  | unknownMethod
  | missingArgument
  | tooManyArguments
  | invalidArgument
  | unsupported
  deriving DecidableEq, Repr

/-- The kind of an error. -/
def EvalError.cause : EvalError → Cause
  | typeMismatch .. => .typeMismatch
  | notANumber .. => .notANumber
  | notNavigable .. => .notNavigable
  | invalidKey .. => .invalidKey
  | notCallable .. => .notCallable
  | methodNotAllowed .. => .methodNotAllowed
  | unknownMethod .. => .unknownMethod
  | missingArgument .. => .missingArgument
  | tooManyArguments .. => .tooManyArguments
  | wrongKind .. => .invalidArgument
  | rejected .. => .invalidArgument
  | invalidPattern .. => .invalidArgument
  | unsupported .. => .unsupported

/-- Values that have no members: booleans, numbers and texts. -/
def Value.Scalar (v : Value) : Prop :=
  v.kind = .boolean ∨ v.kind = .number ∨ v.kind = .text

/-! ### What an expression contains -/

namespace Expr

/-- An expression and all expressions inside it. -/
def nodes (e : Expr) : List Expr :=
  e :: e.parts.attach.flatMap fun p => nodes p.1
  termination_by sizeOf e
  decreasing_by exact sizeOf_lt_of_mem_parts p.2

theorem nodes_eq (e : Expr) : e.nodes = e :: e.parts.flatMap nodes := by
  rw [nodes, List.flatMap_subtype (g := nodes) (fun _ _ => rfl), List.unattach_attach]

theorem self_mem_nodes (e : Expr) : e ∈ e.nodes := by
  rw [nodes_eq]
  exact List.mem_cons_self

theorem mem_nodes_of_part {e p n : Expr} (hp : p ∈ e.parts) (hn : n ∈ p.nodes) : n ∈ e.nodes := by
  rw [nodes_eq]
  exact List.mem_cons_of_mem _ (List.mem_flatMap.2 ⟨p, hp, hn⟩)

/-- What holds of an expression, and of the parts of whatever it holds of, holds of all expressions
inside. -/
theorem forall_mem_nodes {P : Expr → Prop} (hparts : ∀ e, P e → ∀ p ∈ e.parts, P p) {e : Expr}
    (he : P e) : ∀ n ∈ e.nodes, P n := by
  induction e using induction_parts with
  | h e ih =>
    intro n hn
    rw [nodes_eq] at hn
    rcases List.mem_cons.1 hn with rfl | hinside
    · exact he
    · obtain ⟨p, hp, hn⟩ := List.mem_flatMap.1 hinside
      exact ih p hp (hparts e he p hp) n hn

/-- No path inside an expression has a call in it. -/
def CallFree (e : Expr) : Prop :=
  ∀ ss, path ss ∈ e.nodes → ∀ method args, Segment.call method args ∉ ss

theorem CallFree.of_part {e p : Expr} (h : e.CallFree) (hp : p ∈ e.parts) : p.CallFree :=
  fun ss hss => h ss (mem_nodes_of_part hp hss)

/-- What an expression has to contain, or what the root has to be, for an evaluation without calls to
fail with errors of a kind:
* a conditional or a negation for a type mismatch;
* a product of at least two operands for something that is not a number;
* a computed key for an invalid key;
* a path of more than one step, or a root without members, for a value that has no members;
* a function for what is not supported.

No other kinds occur. -/
def Explains (root : Value) (e : Expr) : EvalError.Cause → Prop
  | .typeMismatch =>
    (∃ test yes no, cond test yes no ∈ e.nodes) ∨ ∃ operand, Expr.not operand ∈ e.nodes
  | .notANumber => ∃ first factor factors, product first (factor :: factors) ∈ e.nodes
  | .invalidKey => ∃ ss offset, path ss ∈ e.nodes ∧ Segment.key offset ∈ ss
  | .notNavigable => (∃ ss, path ss ∈ e.nodes ∧ 1 < ss.length) ∨ root.Scalar
  | .unsupported => ∃ params body, function params body ∈ e.nodes
  | _ => False

/-- What a part explains, the whole explains. -/
theorem Explains.of_part {root : Value} {e p : Expr} (hp : p ∈ e.parts) {c : EvalError.Cause}
    (h : p.Explains root c) : e.Explains root c := by
  have hnodes : ∀ n ∈ p.nodes, n ∈ e.nodes := fun n hn => mem_nodes_of_part hp hn
  cases c with
  | typeMismatch =>
    rcases h with ⟨test, yes, no, hn⟩ | ⟨operand, hn⟩
    · exact .inl ⟨test, yes, no, hnodes _ hn⟩
    · exact .inr ⟨operand, hnodes _ hn⟩
  | notANumber =>
    obtain ⟨first, factor, factors, hn⟩ := h
    exact ⟨first, factor, factors, hnodes _ hn⟩
  | invalidKey =>
    obtain ⟨ss, offset, hn, hkey⟩ := h
    exact ⟨ss, offset, hnodes _ hn, hkey⟩
  | notNavigable =>
    rcases h with ⟨ss, hn, hlong⟩ | hroot
    · exact .inl ⟨ss, hnodes _ hn, hlong⟩
    · exact .inr hroot
  | unsupported =>
    obtain ⟨params, body, hn⟩ := h
    exact ⟨params, body, hnodes _ hn⟩
  | notCallable | methodNotAllowed | unknownMethod | missingArgument | tooManyArguments
  | invalidArgument => exact h.elim

end Expr

/-! ### Computations that fail -/

variable {W α β : Type}

/-- A computation fails, from whatever state, with errors of some kinds only. -/
def Raises (E : EvalError.Cause → Prop) (p : Eval W α) : Prop :=
  ∀ s error s', p s = .error error s' → E error.cause

namespace Raises

variable {E E' : EvalError.Cause → Prop}

theorem pure (x : α) : Raises E (pure x : Eval W α) := by
  intro s error s' h
  cases h

theorem throw {error : EvalError} (h : E error.cause) : Raises E (throw error : Eval W α) := by
  intro s error' s' herror
  cases herror
  exact h

theorem ofExcept {r : Except EvalError α} (h : ∀ error, r = .error error → E error.cause) :
    Raises E (Eval.ofExcept r : Eval W α) := by
  cases r with
  | ok x => exact pure x
  | error error => exact throw (h error rfl)

theorem bind {p : Eval W α} {f : α → Eval W β} (hp : Raises E p) (hf : ∀ x, Raises E (f x)) :
    Raises E (p >>= f) := by
  intro s error s' h
  cases hresult : p s with
  | ok x t =>
    rw [bind_of_ok hresult] at h
    exact hf x t error s' h
  | error error' t =>
    rw [bind_of_error hresult] at h
    cases h
    exact hp s error s' hresult

theorem mono (h : ∀ c, E c → E' c) {p : Eval W α} (hp : Raises E p) : Raises E' p :=
  fun s error s' herror => h _ (hp s error s' herror)

end Raises

/-! ### Keys, members and operands -/

section

variable {E : EvalError.Cause → Prop}

/-- Looking for a member fails on values that have none. -/
theorem Value.get_raises {v : Value} (h : v.Scalar → E .notNavigable) (hosts : HostInterface W)
    (key : Key) : Raises E (v.get hosts key) := by
  have hlookup : ∀ state error, v.lookup hosts state key = .error error → E error.cause := by
    intro state error herror
    cases v with
    | boolean b | number x | text s =>
      cases herror
      exact h (by simp [Scalar, kind])
    | null | list _ | map _ | host _ => cases herror
  unfold Value.get
  refine .bind ?_ fun state => .ofExcept (hlookup state)
  intro s error s' herror
  cases herror

theorem Key.ofValue_raises (h : E .invalidKey) (v : Value) :
    Raises E (Eval.ofExcept (Key.ofValue v) : Eval W Key) := by
  refine .ofExcept fun error herror => ?_
  cases v with
  | text s | number x => cases herror
  | _ =>
    cases herror
    exact h

theorem Value.factor_raises (h : E .notANumber) (op : MulOp) (v : Value) :
    Raises E (Eval.ofExcept (v.factor op) : Eval W Float) := by
  refine .ofExcept fun error herror => ?_
  unfold Value.factor at herror
  split at herror
  · cases herror
  · cases herror
    exact h

/-! ### Loops

A loop raises what its operands, items or steps raise, and what it does with their values raises. -/

variable {hosts : HostInterface W} {root : Value}

theorem evalAny_raises {es : List Expr} (h : ∀ e ∈ es, Raises E (e.eval hosts root)) (v : Value) :
    Raises E (evalAny hosts root v es) := by
  induction es generalizing v with
  | nil =>
    rw [evalAny]
    exact .pure v
  | cons e es ih =>
    obtain ⟨he, hes⟩ := List.forall_mem_cons.1 h
    rw [evalAny]
    split
    · exact he.bind (ih hes)
    · exact .pure v

theorem evalAll_raises {es : List Expr} (h : ∀ e ∈ es, Raises E (e.eval hosts root)) (v : Value) :
    Raises E (evalAll hosts root v es) := by
  induction es generalizing v with
  | nil =>
    rw [evalAll]
    exact .pure _
  | cons e es ih =>
    obtain ⟨he, hes⟩ := List.forall_mem_cons.1 h
    rw [evalAll]
    split
    · exact he.bind (ih hes)
    · exact .pure _

theorem evalItems_raises {es : List Expr} (h : ∀ e ∈ es, Raises E (e.eval hosts root)) :
    Raises E (evalItems hosts root es) := by
  induction es with
  | nil =>
    rw [evalItems]
    exact .pure []
  | cons e es ih =>
    obtain ⟨he, hes⟩ := List.forall_mem_cons.1 h
    rw [evalItems]
    exact he.bind fun v => (ih hes).bind fun vs => .pure (v :: vs)

theorem evalEntries_raises {ts : List (String × Expr)}
    (h : ∀ e ∈ ts.map Prod.snd, Raises E (e.eval hosts root)) :
    Raises E (evalEntries hosts root ts) := by
  induction ts with
  | nil =>
    rw [evalEntries]
    exact .pure []
  | cons t ts ih =>
    obtain ⟨he, hes⟩ := List.forall_mem_cons.1 h
    rw [evalEntries]
    exact he.bind fun v => (ih hes).bind fun vs => .pure ((t.1, v) :: vs)

theorem evalSum_raises {ts : List (AddOp × Expr)}
    (h : ∀ e ∈ ts.map Prod.snd, Raises E (e.eval hosts root)) (running : Running) :
    Raises E (evalSum hosts root running ts) := by
  induction ts generalizing running with
  | nil =>
    rw [evalSum]
    exact .pure running
  | cons t ts ih =>
    obtain ⟨he, hes⟩ := List.forall_mem_cons.1 h
    rw [evalSum]
    exact he.bind fun v => ih hes _

theorem evalProduct_raises {ts : List (MulOp × Expr)} (hnumber : E .notANumber)
    (h : ∀ e ∈ ts.map Prod.snd, Raises E (e.eval hosts root)) (x : Float) :
    Raises E (evalProduct hosts root x ts) := by
  induction ts generalizing x with
  | nil =>
    rw [evalProduct]
    exact .pure x
  | cons t ts ih =>
    obtain ⟨he, hes⟩ := List.forall_mem_cons.1 h
    rw [evalProduct]
    exact he.bind fun v => (Value.factor_raises hnumber t.1 v).bind fun y => ih hes _

/-- A step that is no call raises what its key raises, fails on a key that is none, and on a value
without members. -/
theorem Segment.eval_raises {s : Segment} {v : Value}
    (hcall : ∀ method args, s ≠ .call method args)
    (hargs : ∀ e ∈ s.args, Raises E (e.eval hosts root))
    (hkey : ∀ offset, s = .key offset → E .invalidKey) (hscalar : v.Scalar → E .notNavigable) :
    Raises E (s.eval hosts root v) := by
  cases s with
  | name x =>
    rw [Segment.eval]
    exact Value.get_raises hscalar hosts _
  | key offset =>
    have hoffset : Raises E (offset.eval hosts root) := hargs offset (List.mem_singleton_self _)
    rw [Segment.eval]
    refine hoffset.bind fun w => ?_
    exact (Key.ofValue_raises (hkey offset rfl) w).bind fun key => Value.get_raises hscalar hosts key
  | call method args => exact absurd rfl (hcall method args)

/-- A path fails at its first step if it starts at a value without members, and at a later one only if
there is one. -/
theorem evalPath_raises {ss : List Segment} {v : Value}
    (hcall : ∀ method args, Segment.call method args ∉ ss)
    (hargs : ∀ e ∈ ss.flatMap Segment.args, Raises E (e.eval hosts root))
    (hkey : ∀ offset, Segment.key offset ∈ ss → E .invalidKey)
    (hscalar : v.Scalar → E .notNavigable) (hlong : 1 < ss.length → E .notNavigable) :
    Raises E (evalPath hosts root v ss) := by
  induction ss generalizing v with
  | nil =>
    rw [evalPath]
    exact .pure v
  | cons s ss ih =>
    obtain ⟨hs, hss⟩ := List.forall_mem_append.1 hargs
    have hstep : Raises E (s.eval hosts root v) := by
      refine Segment.eval_raises (fun method args heq => ?_) hs (fun offset heq => ?_) hscalar
      · exact hcall method args (heq ▸ List.mem_cons_self)
      · exact hkey offset (heq ▸ List.mem_cons_self)
    have hrest : ∀ w, Raises E (evalPath hosts root w ss) := by
      intro w
      cases ss with
      | nil =>
        rw [evalPath]
        exact .pure w
      | cons s' ss =>
        have hnavigable : E .notNavigable := hlong (by simp)
        refine ih (fun method args hmem => ?_) hss (fun offset hmem => ?_) (fun _ => hnavigable)
          fun _ => hnavigable
        · exact hcall method args (List.mem_cons_of_mem _ hmem)
        · exact hkey offset (List.mem_cons_of_mem _ hmem)
    rw [evalPath]
    split
    · exact .pure _
    · exact hstep.bind hrest

end

/-! ### Expressions -/

namespace Expr

variable (hosts : HostInterface W) {root : Value}

/-- An evaluation without calls raises nothing but what the expression explains. -/
theorem eval_raises {e : Expr} (hcalls : e.CallFree) :
    Raises (e.Explains root) (e.eval hosts root) := by
  induction e using induction_parts with
  | h e ih =>
    have hself : e ∈ e.nodes := e.self_mem_nodes
    have hparts : ∀ p ∈ e.parts, Raises (e.Explains root) (p.eval hosts root) := fun p hp =>
      (ih p hp (hcalls.of_part hp)).mono fun _ => .of_part hp
    cases e with
    | cond test yes no =>
      obtain ⟨htest, hyes, hno, -⟩ := by simpa only [parts, List.forall_mem_cons] using hparts
      rw [Expr.eval]
      refine htest.bind fun v => ?_
      split
      · exact hyes
      · exact hno
      · exact .throw (.inl ⟨test, yes, no, hself⟩)
    | any first rest =>
      obtain ⟨hfirst, hrest⟩ := List.forall_mem_cons.1 hparts
      rw [Expr.eval]
      exact hfirst.bind (evalAny_raises hrest)
    | all first rest =>
      obtain ⟨hfirst, hrest⟩ := List.forall_mem_cons.1 hparts
      rw [Expr.eval]
      refine hfirst.bind fun v => ?_
      cases rest with
      | nil => exact .pure v
      | cons e es => exact evalAll_raises hrest v
    | compare op left right =>
      obtain ⟨hleft, hright, -⟩ := by simpa only [parts, List.forall_mem_cons] using hparts
      rw [Expr.eval]
      exact hleft.bind fun v => hright.bind fun w => .pure _
    | sum first rest =>
      obtain ⟨hfirst, hrest⟩ := List.forall_mem_cons.1 hparts
      rw [Expr.eval]
      refine hfirst.bind fun v => ?_
      cases rest with
      | nil => exact .pure v
      | cons t ts => exact (evalSum_raises hrest _).bind fun running => .pure _
    | product first rest =>
      obtain ⟨hfirst, hrest⟩ := List.forall_mem_cons.1 hparts
      rw [Expr.eval]
      refine hfirst.bind fun v => ?_
      cases rest with
      | nil => exact .pure v
      | cons t ts =>
        have hnumber : Explains root (product first (t :: ts)) .notANumber := ⟨first, t, ts, hself⟩
        refine (Value.factor_raises hnumber t.1 v).bind fun x => ?_
        exact (evalProduct_raises hnumber hrest x).bind fun y => .pure _
    | function params body =>
      rw [Expr.eval]
      exact .throw ⟨params, body, hself⟩
    | wrapped inner =>
      rw [Expr.eval]
      exact hparts inner (List.mem_singleton_self _)
    | not operand =>
      rw [Expr.eval]
      refine (hparts operand (List.mem_singleton_self _)).bind fun v => ?_
      split
      · exact .pure _
      · exact .throw (.inr ⟨operand, hself⟩)
    | list items =>
      rw [Expr.eval]
      exact (evalItems_raises hparts).bind fun vs => .pure _
    | map entries =>
      rw [Expr.eval]
      exact (evalEntries_raises hparts).bind fun vs => .pure _
    | boolean b =>
      rw [Expr.eval]
      exact .pure _
    | number x =>
      rw [Expr.eval]
      exact .pure _
    | text s =>
      rw [Expr.eval]
      exact .pure _
    | path ss =>
      rw [Expr.eval]
      exact evalPath_raises (hcalls ss hself) hparts (fun offset hmem => ⟨ss, offset, hself, hmem⟩)
        .inr fun hlong => .inl ⟨ss, hself, hlong⟩

/-! ### Expressions that always have a value -/

/-- An expression of literals and single names, put together with parentheses, lists, maps, sums,
comparisons, `&&` and `||`. -/
inductive Plain : Expr → Prop
  | boolean (b : Bool) : Plain (boolean b)
  | number (x : Float) : Plain (number x)
  | text (s : String) : Plain (text s)
  | name (x : String) : Plain (path [.name x])
  | wrapped {inner : Expr} : Plain inner → Plain (wrapped inner)
  | list {items : List Expr} : (∀ e ∈ items, Plain e) → Plain (list items)
  | map {entries : List (String × Expr)} : (∀ e ∈ entries.map Prod.snd, Plain e) → Plain (map entries)
  | sum {first : Expr} {rest : List (AddOp × Expr)} :
      Plain first → (∀ e ∈ rest.map Prod.snd, Plain e) → Plain (sum first rest)
  | compare {op : CompareOp} {left right : Expr} :
      Plain left → Plain right → Plain (compare op left right)
  | all {first : Expr} {rest : List Expr} :
      Plain first → (∀ e ∈ rest, Plain e) → Plain (all first rest)
  | any {first : Expr} {rest : List Expr} :
      Plain first → (∀ e ∈ rest, Plain e) → Plain (any first rest)

theorem Plain.parts {e : Expr} (h : e.Plain) : ∀ p ∈ e.parts, p.Plain := by
  cases h with
  | boolean | number | text | name => exact fun p hp => absurd hp List.not_mem_nil
  | wrapped hinner => exact List.forall_mem_singleton.2 hinner
  | list hitems => exact hitems
  | map hentries => exact hentries
  | sum hfirst hrest => exact List.forall_mem_cons.2 ⟨hfirst, hrest⟩
  | compare hleft hright => exact List.forall_mem_cons.2 ⟨hleft, List.forall_mem_singleton.2 hright⟩
  | all hfirst hrest | any hfirst hrest => exact List.forall_mem_cons.2 ⟨hfirst, hrest⟩

theorem Plain.nodes {e : Expr} (h : e.Plain) : ∀ n ∈ e.nodes, n.Plain :=
  forall_mem_nodes (fun _ => Plain.parts) h

theorem Plain.callFree {e : Expr} (h : e.Plain) : e.CallFree := by
  intro ss hss
  cases h.nodes _ hss
  simp

/-- Nothing in such an expression explains an error, as long as the root has members. -/
theorem Plain.not_explains {e : Expr} (h : e.Plain) (hroot : ¬root.Scalar) (c : EvalError.Cause) :
    ¬e.Explains root c := by
  intro hexplains
  cases c with
  | typeMismatch =>
    rcases hexplains with ⟨_, _, _, hn⟩ | ⟨_, hn⟩
    · cases h.nodes _ hn
    · cases h.nodes _ hn
  | notANumber =>
    obtain ⟨_, _, _, hn⟩ := hexplains
    cases h.nodes _ hn
  | invalidKey =>
    obtain ⟨ss, offset, hn, hkey⟩ := hexplains
    cases h.nodes _ hn
    simp at hkey
  | notNavigable =>
    rcases hexplains with ⟨ss, hn, hlong⟩ | hscalar
    · cases h.nodes _ hn
      simp at hlong
    · exact hroot hscalar
  | unsupported =>
    obtain ⟨_, _, hn⟩ := hexplains
    cases h.nodes _ hn
  | _ => exact hexplains

/-! ### Whole runs -/

theorem run_eq_error {context : Context} {e : Expr} {state : W} {error : EvalError}
    (h : (e.run hosts context state).1 = .error error) :
    ∃ state', e.eval hosts context.root state = .error error state' := by
  unfold run at h
  cases hresult : e.eval hosts context.root state with
  | ok v state' =>
    rw [hresult] at h
    cases h
  | error error' state' =>
    rw [hresult] at h
    cases h
    exact ⟨state', rfl⟩

/-- **Where an evaluation can fail.**  Without calls an evaluation fails with an error of some kind only if
the expression contains what can raise it: a conditional or a negation, a product of two operands or more,
a computed key, a path of two steps or more (or the root is a boolean, a number or a text), or a
function.  An expression of literals, single names, parentheses, lists, maps, sums, comparisons, `&&` and
`||` has a value in every context whose root is a map, a list or null. -/
theorem failures_explained :
    (∀ (W : Type) (hosts : HostInterface W) (context : Context) (e : Expr), e.CallFree →
      ∀ (state : W) (error : EvalError), (e.run hosts context state).1 = .error error →
        e.Explains context.root error.cause) ∧
    ∀ (W : Type) (hosts : HostInterface W) (context : Context) (e : Expr), e.Plain →
      context.root.kind = .map ∨ context.root.kind = .list ∨ context.root.kind = .null →
      ∀ state : W, ∃ v, (e.run hosts context state).1 = .ok v := by
  have hfailures : ∀ (W : Type) (hosts : HostInterface W) (context : Context) (e : Expr), e.CallFree →
      ∀ (state : W) (error : EvalError), (e.run hosts context state).1 = .error error →
        e.Explains context.root error.cause := by
    intro W hosts context e hcalls state error herror
    obtain ⟨state', heval⟩ := run_eq_error hosts herror
    exact eval_raises hosts hcalls state error state' heval
  refine ⟨hfailures, fun W hosts context e hplain hkind state => ?_⟩
  have hroot : ¬context.root.Scalar := by
    rintro (h | h | h) <;> rw [h] at hkind <;> simp at hkind
  cases hresult : (e.run hosts context state).1 with
  | ok v => exact ⟨v, rfl⟩
  | error error =>
    have hexplains := hfailures W hosts context e hplain.callFree state error hresult
    exact absurd hexplains (hplain.not_explains hroot _)

/-- `names['0'].first` fails where the first name is a text, as the path has more than one step, and
`'a' - x || [y, 1]` has a value although neither `x` nor `y` is bound. -/
theorem failures_explained_texts :
    CallFree (path [.name "names", .key (text "0"), .name "first"]) ∧
    ((path [.name "names", .key (text "0"), .name "first"]).run HostTable.interface
        ⟨.map [("names", .list [.text "ada"])]⟩ ({} : HostTable Unit)).1 =
      .error (.notNavigable "first" .text) ∧
    (path [.name "names", .key (text "0"), .name "first"]).Explains
      (.map [("names", .list [.text "ada"])]) .notNavigable ∧
    Plain (any (sum (text "a") [(.subtract, path [.name "x"])]) [list [path [.name "y"], number 1.0]]) ∧
    ∃ v, ((any (sum (text "a") [(.subtract, path [.name "x"])]) [list [path [.name "y"], number 1.0]]).run
      HostTable.interface ⟨.map [("names", .list [.text "ada"])]⟩ ({} : HostTable Unit)).1 = .ok v := by
  obtain ⟨hfailures, hvalues⟩ := failures_explained
  have hcalls : CallFree (path [.name "names", .key (text "0"), .name "first"]) := by
    simp [CallFree, nodes_eq, parts, Segment.args]
  have herror : ((path [.name "names", .key (text "0"), .name "first"]).run HostTable.interface
      ⟨.map [("names", .list [.text "ada"])]⟩ ({} : HostTable Unit)).1 =
        .error (.notNavigable "first" .text) := rfl
  have hplain : Plain (any (sum (text "a") [(.subtract, path [.name "x"])])
      [list [path [.name "y"], number 1.0]]) := by
    refine .any (.sum (.text "a") ?_) ?_
    · exact List.forall_mem_singleton.2 (.name "x")
    · refine List.forall_mem_singleton.2 (.list ?_)
      exact List.forall_mem_cons.2 ⟨.name "y", List.forall_mem_singleton.2 (.number 1.0)⟩
  exact ⟨hcalls, herror, hfailures _ _ _ _ hcalls _ _ herror, hplain,
    hvalues _ _ _ _ hplain (.inl rfl) _⟩

end Expr

end HostExpr
