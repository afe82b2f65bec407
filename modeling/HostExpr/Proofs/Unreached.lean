import HostExpr.Proofs.CallGate
import HostExpr.Proofs.Chains

/-!
# What is not reached does not matter

Parts of an expression that an evaluation does not get to may be anything.

* `Place`: an expression with a hole directly below its root, and `Place.fill`;
* `Place.Reached`: the hole of a place is evaluated, and in which state;
* `Unreached`: two expressions that differ in a part which is not evaluated, somewhere in the tree;
* `Expr.eval_eq_of_unreached`, `Expr.run_eq_of_unreached`: they come to the same.

Whether a part is reached depends on the state in which the expression around it is evaluated, which
is the state that everything to the left of it leaves.  What a chain or a path has come to before a
part is the value of the chain or path up to that part.
-/

namespace HostExpr

open Stateful

variable {W : Type}

theorem Value.isNull_iff {v : Value} : v.isNull = true ↔ v = .null := by
  cases v <;> simp [isNull]

/-! ### Places -/

/-- An expression with a hole for one of the expressions directly below it.  `before` and `after`
are what stands in the same chain, list or path on both sides of the hole. -/
inductive Place where
  | condTest (yes no : Expr)
  | condYes (test no : Expr)
  | condNo (test yes : Expr)
  | anyFirst (rest : List Expr)
  | anyRest (first : Expr) (before after : List Expr)
  | allFirst (rest : List Expr)
  | allRest (first : Expr) (before after : List Expr)
  | compareLeft (op : CompareOp) (right : Expr)
  | compareRight (op : CompareOp) (left : Expr)
  | sumFirst (rest : List (AddOp × Expr))
  | sumRest (first : Expr) (before : List (AddOp × Expr)) (op : AddOp)
      (after : List (AddOp × Expr))
  | productFirst (rest : List (MulOp × Expr))
  | productRest (first : Expr) (before : List (MulOp × Expr)) (op : MulOp)
      (after : List (MulOp × Expr))
  | functionBody (params : List String)
  | wrapped
  | not
  | item (before after : List Expr)
  | entry (before : List (String × Expr)) (key : String) (after : List (String × Expr))
  | offset (before after : List Segment)
  | argument (before : List Segment) (method : String) (argsBefore argsAfter : List Expr)
      (after : List Segment)

namespace Place

/-- The expression of a place with an expression in the hole. -/
def fill (e : Expr) : Place → Expr
  | condTest yes no => .cond e yes no
  | condYes test no => .cond test e no
  | condNo test yes => .cond test yes e
  | anyFirst rest => .any e rest
  | anyRest first before after => .any first (before ++ e :: after)
  | allFirst rest => .all e rest
  | allRest first before after => .all first (before ++ e :: after)
  | compareLeft op right => .compare op e right
  | compareRight op left => .compare op left e
  | sumFirst rest => .sum e rest
  | sumRest first before op after => .sum first (before ++ (op, e) :: after)
  | productFirst rest => .product e rest
  | productRest first before op after => .product first (before ++ (op, e) :: after)
  | functionBody params => .function params e
  | wrapped => .wrapped e
  | not => .not e
  | item before after => .list (before ++ e :: after)
  | entry before key after => .map (before ++ (key, e) :: after)
  | offset before after => .path (before ++ .key e :: after)
  | argument before method argsBefore argsAfter after =>
    .path (before ++ .call method (argsBefore ++ e :: argsAfter) :: after)

/-- The hole of a place that is evaluated in the first state is evaluated in the second.  The body
of a function is never evaluated. -/
inductive Reached (hosts : HostInterface W) (root : Value) : Place → W → W → Prop
  | condTest {yes no : Expr} {s : W} : Reached hosts root (.condTest yes no) s s
  | condYes {test no : Expr} {s s' : W} : test.eval hosts root s = .ok (.boolean true) s' →
      Reached hosts root (.condYes test no) s s'
  | condNo {test yes : Expr} {s s' : W} : test.eval hosts root s = .ok (.boolean false) s' →
      Reached hosts root (.condNo test yes) s s'
  | anyFirst {rest : List Expr} {s : W} : Reached hosts root (.anyFirst rest) s s
  | anyRest {first : Expr} {before after : List Expr} {s s' : W} :
      (Expr.any first before).eval hosts root s = .ok .null s' →
      Reached hosts root (.anyRest first before after) s s'
  | allFirst {rest : List Expr} {s : W} : Reached hosts root (.allFirst rest) s s
  | allRest {first : Expr} {before after : List Expr} {v : Value} {s s' : W} :
      (Expr.all first before).eval hosts root s = .ok v s' → v.isTruthy = true →
      Reached hosts root (.allRest first before after) s s'
  | compareLeft {op : CompareOp} {right : Expr} {s : W} :
      Reached hosts root (.compareLeft op right) s s
  | compareRight {op : CompareOp} {left : Expr} {v : Value} {s s' : W} :
      left.eval hosts root s = .ok v s' → Reached hosts root (.compareRight op left) s s'
  | sumFirst {rest : List (AddOp × Expr)} {s : W} : Reached hosts root (.sumFirst rest) s s
  | sumRest {first : Expr} {before : List (AddOp × Expr)} {op : AddOp}
      {after : List (AddOp × Expr)} {v : Value} {s s' : W} :
      (Expr.sum first before).eval hosts root s = .ok v s' →
      Reached hosts root (.sumRest first before op after) s s'
  | productFirst {rest : List (MulOp × Expr)} {s : W} :
      Reached hosts root (.productFirst rest) s s
  | productRest {first : Expr} {before : List (MulOp × Expr)} {op : MulOp}
      {after : List (MulOp × Expr)} {v : Value} {x : Float} {s s' : W} :
      (Expr.product first before).eval hosts root s = .ok v s' → v.factor op = .ok x →
      Reached hosts root (.productRest first before op after) s s'
  | wrapped {s : W} : Reached hosts root .wrapped s s
  | not {s : W} : Reached hosts root .not s s
  | item {before after : List Expr} {vs : List Value} {s s' : W} :
      evalItems hosts root before s = .ok vs s' → Reached hosts root (.item before after) s s'
  | entry {before : List (String × Expr)} {key : String} {after : List (String × Expr)}
      {vs : List (String × Value)} {s s' : W} :
      evalEntries hosts root before s = .ok vs s' →
      Reached hosts root (.entry before key after) s s'
  | offset {before after : List Segment} {v : Value} {s s' : W} :
      (Expr.path before).eval hosts root s = .ok v s' → v.isNull = false →
      Reached hosts root (.offset before after) s s'
  | argument {before : List Segment} {method : String} {argsBefore argsAfter : List Expr}
      {after : List Segment} {v : Value} {vs : List Value} {s s₁ s' : W} :
      (Expr.path before).eval hosts root s = .ok v s₁ → v.isNull = false →
      evalItems hosts root argsBefore s₁ = .ok vs s' →
      Reached hosts root (.argument before method argsBefore argsAfter after) s s'

/-- Expressions that come to the same wherever the hole is evaluated may be exchanged. -/
theorem eval_fill_congr {hosts : HostInterface W} {root : Value} {s : W} {e e' : Expr}
    (place : Place)
    (h : ∀ s', place.Reached hosts root s s' → e.eval hosts root s' = e'.eval hosts root s') :
    (place.fill e).eval hosts root s = (place.fill e').eval hosts root s := by
  cases place with
  | condTest yes no =>
    simp only [fill, Expr.eval]
    exact bind_congr_left (h s .condTest)
  | condYes test no =>
    simp only [fill, Expr.eval]
    refine bind_congr_right fun v s' hv => ?_
    split
    · exact h s' (.condYes hv)
    · rfl
    · rfl
  | condNo test yes =>
    simp only [fill, Expr.eval]
    refine bind_congr_right fun v s' hv => ?_
    split
    · rfl
    · exact h s' (.condNo hv)
    · rfl
  | anyFirst rest =>
    simp only [fill, Expr.eval]
    exact bind_congr_left (h s .anyFirst)
  | anyRest first before after =>
    simp only [fill, Expr.eval_any_append, evalAny]
    refine bind_congr_right fun v s' hv => ?_
    split
    · next hnull =>
      obtain rfl := Value.isNull_iff.1 hnull
      exact bind_congr_left (h s' (.anyRest hv))
    · rfl
  | allFirst rest =>
    simp only [fill, Expr.eval]
    exact bind_congr_left (h s .allFirst)
  | allRest first before after =>
    simp only [fill, Expr.eval_all_append, evalAll]
    refine bind_congr_right fun v s' hv => ?_
    split
    · next htruthy => exact bind_congr_left (h s' (.allRest hv htruthy))
    · rfl
  | compareLeft op right =>
    simp only [fill, Expr.eval]
    exact bind_congr_left (h s .compareLeft)
  | compareRight op left =>
    simp only [fill, Expr.eval]
    refine bind_congr_right fun v s' hv => ?_
    exact bind_congr_left (h s' (.compareRight hv))
  | sumFirst rest =>
    simp only [fill, Expr.eval]
    exact bind_congr_left (h s .sumFirst)
  | sumRest first before op after =>
    simp only [fill, Expr.eval_sum_append, evalSum, bind_assoc]
    refine bind_congr_right fun v s' hv => ?_
    exact bind_congr_left (h s' (.sumRest hv))
  | productFirst rest =>
    simp only [fill, Expr.eval]
    exact bind_congr_left (h s .productFirst)
  | productRest first before op after =>
    simp only [fill, Expr.eval_product_append, evalProduct, bind_assoc]
    refine bind_congr_right fun v s' hv => ?_
    cases hfactor : v.factor op with
    | ok x => exact bind_congr_left (h s' (.productRest hv hfactor))
    | error e => rfl
  | functionBody params => simp only [fill, Expr.eval]
  | wrapped =>
    simp only [fill, Expr.eval]
    exact h s .wrapped
  | not =>
    simp only [fill, Expr.eval]
    exact bind_congr_left (h s .not)
  | item before after =>
    simp only [fill, Expr.eval, evalItems_append, evalItems, bind_assoc]
    refine bind_congr_right fun vs s' hvs => ?_
    exact bind_congr_left (h s' (.item hvs))
  | entry before key after =>
    simp only [fill, Expr.eval, evalEntries_append, evalEntries, bind_assoc]
    refine bind_congr_right fun vs s' hvs => ?_
    exact bind_congr_left (h s' (.entry hvs))
  | offset before after =>
    simp only [fill, Expr.eval_path_append, evalPath, Segment.eval, bind_assoc]
    refine bind_congr_right fun v s' hv => ?_
    split
    · rfl
    · next hnull => exact bind_congr_left (h s' (.offset hv (Bool.eq_false_iff.2 hnull)))
  | argument before method argsBefore argsAfter after =>
    simp only [fill, Expr.eval_path_append, evalPath, Segment.eval, evalItems_append, evalItems,
      bind_assoc]
    refine bind_congr_right fun v s₁ hv => ?_
    split
    · rfl
    · next hnull =>
      refine bind_congr_right fun vs s' hvs => ?_
      exact bind_congr_left (h s' (.argument hv (Bool.eq_false_iff.2 hnull) hvs))

end Place

/-! ### Parts that are not reached -/

/-- Two expressions that differ in a part which is not evaluated if the expressions are evaluated in
the given state: in operands of `||` after one that is not null, operands of `&&` after one that
does not count as true, the branch that a conditional does not take, or the steps of a path after a
null.  The part may stand anywhere in the tree, and what takes its place is arbitrary. -/
inductive Unreached (hosts : HostInterface W) (root : Value) : W → Expr → Expr → Prop
  | any {first : Expr} {before after after' : List Expr} {v : Value} {s s' : W} :
      (Expr.any first before).eval hosts root s = .ok v s' → v.isNull = false →
      Unreached hosts root s (.any first (before ++ after)) (.any first (before ++ after'))
  | all {first : Expr} {before : List Expr} {e e' : Expr} {after after' : List Expr} {v : Value}
      {s s' : W} :
      (Expr.all first before).eval hosts root s = .ok v s' → v.isTruthy = false →
      Unreached hosts root s (.all first (before ++ e :: after))
        (.all first (before ++ e' :: after'))
  | no {test yes no no' : Expr} {s s' : W} : test.eval hosts root s = .ok (.boolean true) s' →
      Unreached hosts root s (.cond test yes no) (.cond test yes no')
  | yes {test yes yes' no : Expr} {s s' : W} : test.eval hosts root s = .ok (.boolean false) s' →
      Unreached hosts root s (.cond test yes no) (.cond test yes' no)
  | path {before after after' : List Segment} {s s' : W} :
      (Expr.path before).eval hosts root s = .ok .null s' →
      Unreached hosts root s (.path (before ++ after)) (.path (before ++ after'))
  | inside (place : Place) {e e' : Expr} {s : W} :
      (∀ s', place.Reached hosts root s s' → Unreached hosts root s' e e') →
      Unreached hosts root s (place.fill e) (place.fill e')

section

variable {hosts : HostInterface W} {root : Value}

/-- A chain of `||` that has come to a value is not evaluated further. -/
theorem evalAny_of_not_null {v : Value} (hv : v.isNull = false) (es : List Expr) :
    evalAny hosts root v es = pure v := by
  cases es with
  | nil => rw [evalAny]
  | cons e es => rw [evalAny, if_neg (Bool.eq_false_iff.1 hv)]

/-- A path that has come to null is not followed further. -/
theorem evalPath_null (ss : List Segment) : evalPath hosts root .null ss = pure .null := by
  cases ss with
  | nil => rw [evalPath]
  | cons s ss => rw [evalPath]; rfl

/-- Expressions that differ in a part which is not reached come to the same. -/
theorem Expr.eval_eq_of_unreached {s : W} {e e' : Expr} (h : Unreached hosts root s e e') :
    e.eval hosts root s = e'.eval hosts root s := by
  induction h with
  | any hv hnull =>
    rw [eval_any_append, eval_any_append, bind_of_ok hv, bind_of_ok hv,
      evalAny_of_not_null hnull, evalAny_of_not_null hnull]
  | all hv hfalsy =>
    have hneg := Bool.eq_false_iff.1 hfalsy
    rw [eval_all_append, eval_all_append, bind_of_ok hv, bind_of_ok hv, evalAll, evalAll,
      if_neg hneg, if_neg hneg]
  | no htest =>
    simp only [Expr.eval]
    rw [bind_of_ok htest, bind_of_ok htest]
  | yes htest =>
    simp only [Expr.eval]
    rw [bind_of_ok htest, bind_of_ok htest]
  | path hnull =>
    rw [eval_path_append, eval_path_append, bind_of_ok hnull, bind_of_ok hnull, evalPath_null,
      evalPath_null]
  -- the hypothesis of the induction speaks of the states in which the hole is evaluated only
  | inside place _ ih => exact place.eval_fill_congr ih

/-- **Parts that are not reached do not matter.**  Putting anything else in their place, wherever in
the expression, changes neither the value or error nor the state that an evaluation leaves. -/
theorem Expr.run_eq_of_unreached {context : Context} {state : W} {e e' : Expr}
    (h : Unreached hosts context.root state e e') :
    e.run hosts context state = e'.run hosts context state := by
  unfold run
  rw [eval_eq_of_unreached h]

/-- Once the account is frozen every call on it is refused, but a call on a member that is missing
is not made and may as well be left out. -/
theorem Expr.run_eq_of_unreached_frozen :
    Unreached freezing (.host ⟨0, "account"⟩) false
        (list [path [.call "freeze" []], path [.name "missing", .call "pay" []]])
        (list [path [.call "freeze" []], path [.name "missing"]]) ∧
      (list [path [.call "freeze" []], path [.name "missing", .call "pay" []]]).run freezing
          ⟨.host ⟨0, "account"⟩⟩ false =
        (list [path [.call "freeze" []], path [.name "missing"]]).run freezing
          ⟨.host ⟨0, "account"⟩⟩ false := by
  have hpath : ∀ s, Unreached freezing (.host ⟨0, "account"⟩) s
      (path ([.name "missing"] ++ [.call "pay" []])) (path ([.name "missing"] ++ [])) :=
    fun s => .path rfl
  have h := Unreached.inside (s := false) (.item [path [.call "freeze" []]] [])
    fun s' _ => hpath s'
  exact ⟨h, @run_eq_of_unreached _ freezing ⟨.host ⟨0, "account"⟩⟩ false _ _ h⟩

end

end HostExpr
