import HostExpr.Proofs.Chains

/-!
# Parentheses in chains

Parentheses around the first operands of a chain change nothing, and neither do parentheses around
the last operands of a chain of `||` or `&&`.

* `Expr.chained`: the tree of a chain, which is a node of its own or its only operand;
* `Expr.eval_chained_wrapped`: the first operands of a chain in parentheses;
* `Expr.eval_any_wrapped_last`, `Expr.eval_all_wrapped_last`: the last operands in parentheses;
* `Expr.run_regrouped`: all of this for whole evaluations.

For the first operands it is enough that the loop over the operands goes on from the value of the
shorter chain.  A sum therefore has to know from this value alone whether it adds or joins, and a
chain of `&&` has to be done with null, which it gives for whatever does not count as true.
-/

namespace HostExpr.Expr

/-- The tree of a chain: a node of its own, or its only operand. -/
def chained {α : Type} (node : Expr → List α → Expr) (first : Expr) : List α → Expr
  | [] => first
  | t :: ts => node first (t :: ts)

section

variable {W α : Type} {hosts : HostInterface W} {root : Value} {node : Expr → List α → Expr}

/-! ### The first operands -/

theorem eval_chained (hone : ∀ x, (node x []).eval hosts root = x.eval hosts root) (first : Expr)
    (rest : List α) : (chained node first rest).eval hosts root = (node first rest).eval hosts root := by
  cases rest with
  | nil => exact (hone first).symm
  | cons t ts => rfl

/-- Parentheses around the first operands of a chain that goes on from the value of these. -/
theorem eval_chained_wrapped (more : List α → Value → Eval W Value)
    (hone : ∀ x, (node x []).eval hosts root = x.eval hosts root)
    (hmore : ∀ x before t after, (node x (before ++ t :: after)).eval hosts root =
      (node x before).eval hosts root >>= more (t :: after))
    (first : Expr) (before after : List α) :
    (chained node first (before ++ after)).eval hosts root =
      (chained node (.wrapped (chained node first before)) after).eval hosts root := by
  have hinner : (wrapped (chained node first before)).eval hosts root =
      (node first before).eval hosts root := eval_chained hone first before
  rw [eval_chained hone, eval_chained hone]
  cases after with
  | nil => rw [List.append_nil, hone, hinner]
  | cons t ts =>
    have houter := hmore (.wrapped (chained node first before)) [] t ts
    rw [List.nil_append, hone, hinner] at houter
    rw [hmore, houter]

variable (first : Expr)

theorem eval_any_one : (any first []).eval hosts root = first.eval hosts root := by
  rw [Expr.eval]
  simp only [evalAny, bind_pure]

theorem eval_all_one : (all first []).eval hosts root = first.eval hosts root := by
  rw [Expr.eval, bind_pure]

theorem eval_sum_one : (sum first []).eval hosts root = first.eval hosts root := by
  rw [Expr.eval, bind_pure]

theorem eval_product_one : (product first []).eval hosts root = first.eval hosts root := by
  rw [Expr.eval, bind_pure]

theorem eval_sum_wrapped_first (before after : List (AddOp × Expr)) :
    (chained sum first (before ++ after)).eval hosts root =
      (chained sum (.wrapped (chained sum first before)) after).eval hosts root :=
  eval_chained_wrapped (fun after v => return (← evalSum hosts root (.start v) after).value)
    eval_sum_one (fun x before t after => x.eval_sum_append hosts root before t after) first before after

theorem eval_product_wrapped_first (before after : List (MulOp × Expr)) :
    (chained product first (before ++ after)).eval hosts root =
      (chained product (.wrapped (chained product first before)) after).eval hosts root := by
  -- the operator that an error names is the first one after the parentheses
  let more : List (MulOp × Expr) → Value → Eval W Value
    | [], v => pure v
    | (op, e) :: ts, v => do
      let x ← Eval.ofExcept (v.factor op)
      return .number (← evalProduct hosts root x ((op, e) :: ts))
  exact eval_chained_wrapped more eval_product_one
    (fun x before t after => x.eval_product_append hosts root before t.1 t.2 after) first before after

theorem eval_any_wrapped_first (before after : List Expr) :
    (chained any first (before ++ after)).eval hosts root =
      (chained any (.wrapped (chained any first before)) after).eval hosts root :=
  eval_chained_wrapped (fun after v => evalAny hosts root v after) eval_any_one
    (fun x before t after => x.eval_any_append hosts root before (t :: after)) first before after

theorem eval_all_wrapped_first (before after : List Expr) :
    (chained all first (before ++ after)).eval hosts root =
      (chained all (.wrapped (chained all first before)) after).eval hosts root :=
  eval_chained_wrapped (fun after v => evalAll hosts root v after) eval_all_one
    (fun x before t after => x.eval_all_append hosts root before t after) first before after

/-! ### The last operands -/

theorem eval_any_wrapped_last (before : List Expr) (e : Expr) (after : List Expr) :
    (chained any first (before ++ e :: after)).eval hosts root =
      (chained any first (before ++ [.wrapped (chained any e after)])).eval hosts root := by
  have hinner : (wrapped (chained any e after)).eval hosts root =
      e.eval hosts root >>= fun v => evalAny hosts root v after := by
    refine (eval_chained eval_any_one e after).trans ?_
    rw [Expr.eval]
  have hlast : ∀ v, evalAny hosts root v (e :: after) =
      evalAny hosts root v [.wrapped (chained any e after)] := by
    intro v
    rw [evalAny, evalAny, hinner]
    simp only [evalAny, bind_pure]
  rw [eval_chained eval_any_one, eval_chained eval_any_one, eval_any_append, eval_any_append]
  simp only [hlast]

/-- A chain of `&&` that has come to a value comes to the same with this value as its last operand. -/
theorem evalAll_last (v : Value) (es : List Expr) :
    evalAll hosts root v es = evalAll hosts root v es >>= fun w => evalAll hosts root w [] := by
  rw [← evalAll_append, List.append_nil]

theorem eval_all_wrapped_last (before : List Expr) (e : Expr) (after : List Expr) :
    (chained all first (before ++ e :: after)).eval hosts root =
      (chained all first (before ++ [.wrapped (chained all e after)])).eval hosts root := by
  have hinner : ((wrapped (chained all e after)).eval hosts root >>= fun v => evalAll hosts root v []) =
      e.eval hosts root >>= fun v => evalAll hosts root v after := by
    cases after with
    | nil => rfl
    | cons x xs =>
      have hchain : (wrapped (chained all e (x :: xs))).eval hosts root =
          e.eval hosts root >>= fun v => evalAll hosts root v (x :: xs) := by
        rw [Expr.eval, chained, Expr.eval]
      rw [hchain, bind_assoc]
      simp only [← evalAll_last]
  have hlast : ∀ v, evalAll hosts root v (e :: after) =
      evalAll hosts root v [.wrapped (chained all e after)] := by
    intro v
    rw [evalAll, evalAll, hinner]
  rw [eval_chained eval_all_one, eval_chained eval_all_one, eval_all_append, eval_all_append]
  simp only [hlast]

end

/-! ### Whole evaluations -/

section

variable {W : Type} {hosts : HostInterface W} {context : Context} {state : W}

theorem run_congr {e e' : Expr} (h : e.eval hosts context.root = e'.eval hosts context.root) :
    e.run hosts context state = e'.run hosts context state := by
  unfold run
  rw [h]

variable (hosts context state)

/-- **Parentheses in chains.**  A sum, a product and a chain of `||` or `&&` come to the same value or
error and leave the host objects in the same state if their first operands, any number of them, stand
in parentheses.  So do chains of `||` and `&&` if their last operands stand in parentheses. -/
theorem run_regrouped (first : Expr) :
    (∀ before after : List (AddOp × Expr),
      (chained sum first (before ++ after)).run hosts context state =
        (chained sum (.wrapped (chained sum first before)) after).run hosts context state) ∧
    (∀ before after : List (MulOp × Expr),
      (chained product first (before ++ after)).run hosts context state =
        (chained product (.wrapped (chained product first before)) after).run hosts context state) ∧
    (∀ before after : List Expr,
      (chained any first (before ++ after)).run hosts context state =
        (chained any (.wrapped (chained any first before)) after).run hosts context state) ∧
    (∀ before after : List Expr,
      (chained all first (before ++ after)).run hosts context state =
        (chained all (.wrapped (chained all first before)) after).run hosts context state) ∧
    (∀ (before : List Expr) (e : Expr) (after : List Expr),
      (chained any first (before ++ e :: after)).run hosts context state =
        (chained any first (before ++ [.wrapped (chained any e after)])).run hosts context state) ∧
    ∀ (before : List Expr) (e : Expr) (after : List Expr),
      (chained all first (before ++ e :: after)).run hosts context state =
        (chained all first (before ++ [.wrapped (chained all e after)])).run hosts context state :=
  ⟨fun before after => run_congr (eval_sum_wrapped_first first before after),
    fun before after => run_congr (eval_product_wrapped_first first before after),
    fun before after => run_congr (eval_any_wrapped_first first before after),
    fun before after => run_congr (eval_all_wrapped_first first before after),
    fun before e after => run_congr (eval_any_wrapped_last first before e after),
    fun before e after => run_congr (eval_all_wrapped_last first before e after)⟩

end

end HostExpr.Expr
