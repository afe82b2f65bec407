import HostExpr.Eval

/-!
# Chains are evaluated from the left

A chain of operators, a list, a map or a path comes to the same as its front followed by its rest.

* `evalAny_append`, `evalAll_append`, `evalSum_append`, `evalProduct_append`, `evalItems_append`,
  `evalEntries_append`, `evalPath_append`: the loops over operands, items and steps;
* `evalPath_cons`: the first step of a path from a value that is not null;
* `Expr.eval_any_append`, `Expr.eval_all_append`, `Expr.eval_sum_append`,
  `Expr.eval_product_append`, `Expr.eval_path_append`: a longer chain goes on with the value of the
  shorter one.
-/

namespace HostExpr

variable {W : Type} (hosts : HostInterface W) (root : Value)

/-! ### Loops -/

theorem evalAny_append (v : Value) (xs ys : List Expr) :
    evalAny hosts root v (xs ++ ys) =
      evalAny hosts root v xs >>= fun w => evalAny hosts root w ys := by
  induction xs generalizing v with
  | nil => rw [List.nil_append, evalAny, pure_bind]
  | cons e es ih =>
    rw [List.cons_append, evalAny, evalAny]
    split
    · simp only [bind_assoc, ih]
    · next hnull =>
      -- a value that is not null passes the rest as well
      rw [pure_bind]
      cases ys with
      | nil => rw [evalAny]
      | cons y ys => rw [evalAny, if_neg hnull]

theorem evalAll_append (v : Value) (xs ys : List Expr) :
    evalAll hosts root v (xs ++ ys) =
      evalAll hosts root v xs >>= fun w => evalAll hosts root w ys := by
  have hfalsy : ∀ zs, evalAll hosts root .null zs = pure .null := by
    intro zs
    cases zs with
    | nil => rw [evalAll]; rfl
    | cons z zs => rw [evalAll]; rfl
  induction xs generalizing v with
  | nil =>
    rw [List.nil_append, evalAll, pure_bind]
    split
    · rfl
    · next hv =>
      rw [hfalsy]
      cases ys with
      | nil => rw [evalAll, if_neg hv]
      | cons y ys => rw [evalAll, if_neg hv]
  | cons e es ih =>
    rw [List.cons_append, evalAll, evalAll]
    split
    · simp only [bind_assoc, ih]
    · rw [pure_bind, hfalsy]

theorem evalSum_append (running : Running) (ts us : List (AddOp × Expr)) :
    evalSum hosts root running (ts ++ us) =
      evalSum hosts root running ts >>= fun running' => evalSum hosts root running' us := by
  induction ts generalizing running with
  | nil => rw [List.nil_append, evalSum, pure_bind]
  | cons t ts ih =>
    obtain ⟨op, e⟩ := t
    rw [List.cons_append, evalSum, evalSum]
    simp only [bind_assoc, ih]

theorem evalProduct_append (x : Float) (ts us : List (MulOp × Expr)) :
    evalProduct hosts root x (ts ++ us) =
      evalProduct hosts root x ts >>= fun y => evalProduct hosts root y us := by
  induction ts generalizing x with
  | nil => rw [List.nil_append, evalProduct, pure_bind]
  | cons t ts ih =>
    obtain ⟨op, e⟩ := t
    rw [List.cons_append, evalProduct, evalProduct]
    simp only [bind_assoc, ih]

theorem evalItems_append (xs ys : List Expr) :
    evalItems hosts root (xs ++ ys) = do
      let vs ← evalItems hosts root xs
      let ws ← evalItems hosts root ys
      return vs ++ ws := by
  induction xs with
  | nil => simp only [List.nil_append, evalItems, pure_bind, bind_pure]
  | cons e es ih =>
    rw [List.cons_append, evalItems, evalItems]
    simp only [bind_assoc, pure_bind, ih, List.cons_append]

theorem evalEntries_append (ts us : List (String × Expr)) :
    evalEntries hosts root (ts ++ us) = do
      let vs ← evalEntries hosts root ts
      let ws ← evalEntries hosts root us
      return vs ++ ws := by
  induction ts with
  | nil => simp only [List.nil_append, evalEntries, pure_bind, bind_pure]
  | cons t ts ih =>
    obtain ⟨key, e⟩ := t
    rw [List.cons_append, evalEntries, evalEntries]
    simp only [bind_assoc, pure_bind, ih, List.cons_append]

theorem evalPath_cons {v : Value} (h : v.isNull = false) (s : Segment) (ss : List Segment) :
    evalPath hosts root v (s :: ss) = s.eval hosts root v >>= fun w => evalPath hosts root w ss := by
  rw [evalPath, if_neg (ne_true_of_eq_false h)]

theorem evalPath_append (v : Value) (ss ss' : List Segment) :
    evalPath hosts root v (ss ++ ss') =
      evalPath hosts root v ss >>= fun w => evalPath hosts root w ss' := by
  induction ss generalizing v with
  | nil => rw [List.nil_append, evalPath, pure_bind]
  | cons s ss ih =>
    rw [List.cons_append, evalPath, evalPath]
    split
    · rw [pure_bind]
      cases ss' with
      | nil => rw [evalPath]
      | cons s' ss' => rw [evalPath]; rfl
    · simp only [bind_assoc, ih]

/-! ### Chains -/

theorem Running.start_value (running : Running) : start running.value = running := by
  cases running with
  | total x => rfl
  | joined s => rfl

namespace Expr

variable (first : Expr)

theorem eval_any_append (before after : List Expr) :
    (any first (before ++ after)).eval hosts root =
      (any first before).eval hosts root >>= fun v => evalAny hosts root v after := by
  rw [Expr.eval, Expr.eval, bind_assoc]
  simp only [evalAny_append]

/-- A chain of `&&` with more than its front.  The front alone may be one operand, whose value is
taken as it is. -/
theorem eval_all_append (before : List Expr) (e : Expr) (after : List Expr) :
    (all first (before ++ e :: after)).eval hosts root =
      (all first before).eval hosts root >>= fun v => evalAll hosts root v (e :: after) := by
  rw [Expr.eval, Expr.eval, bind_assoc]
  cases before with
  | nil => simp only [List.nil_append, pure_bind]
  | cons x xs =>
    simp only [List.cons_append]
    simp only [← List.cons_append, evalAll_append]

theorem eval_sum_append (before : List (AddOp × Expr)) (t : AddOp × Expr)
    (after : List (AddOp × Expr)) :
    (sum first (before ++ t :: after)).eval hosts root = do
      let v ← (sum first before).eval hosts root
      return (← evalSum hosts root (.start v) (t :: after)).value := by
  rw [Expr.eval, Expr.eval, bind_assoc]
  cases before with
  | nil => simp only [List.nil_append, pure_bind]
  | cons u us =>
    simp only [List.cons_append]
    simp only [← List.cons_append, evalSum_append, bind_assoc, pure_bind, Running.start_value]

theorem eval_product_append (before : List (MulOp × Expr)) (op : MulOp) (e : Expr)
    (after : List (MulOp × Expr)) :
    (product first (before ++ (op, e) :: after)).eval hosts root = do
      let v ← (product first before).eval hosts root
      let x ← Eval.ofExcept (v.factor op)
      return .number (← evalProduct hosts root x ((op, e) :: after)) := by
  rw [Expr.eval, Expr.eval, bind_assoc]
  cases before with
  | nil => simp only [List.nil_append, pure_bind]
  | cons u us =>
    simp only [List.cons_append]
    simp only [← List.cons_append, evalProduct_append, bind_assoc, pure_bind]
    rfl

theorem eval_path_append (before after : List Segment) :
    (path (before ++ after)).eval hosts root =
      (path before).eval hosts root >>= fun v => evalPath hosts root v after := by
  rw [Expr.eval, Expr.eval, evalPath_append]

end Expr

end HostExpr
