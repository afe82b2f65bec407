import HostExpr.Proofs.Grammar

/-!
# Every tree of the grammar can be spelled

* `Grammar.exists_listed`, `Grammar.exists_run`, `Grammar.exists_terms`: parts that can be spelled
  can be spelled together;
* `Grammatical.exists_spells`: each tree of the grammar has a spelling.

A spelling is wanted that starts at a given offset, because an operand stands right after its `!`.
-/

namespace HostExpr

namespace Grammar

variable {α ω : Type}

theorem exists_listed {item : α → List Lexeme → Prop} {xs : List α}
    (h : ∀ x ∈ xs, ∃ ts, item x ts) : ∃ ts, Listed item xs ts := by
  induction xs with
  | nil => exact ⟨[], .nil⟩
  | cons x xs ih =>
    obtain ⟨⟨ts, hx⟩, hxs⟩ := List.forall_mem_cons.1 h
    obtain ⟨us, hus⟩ := ih hxs
    exact ⟨_, .cons (p := 0) hx hus⟩

theorem exists_run {part : α → List Lexeme → Prop} {xs : List α}
    (h : ∀ x ∈ xs, ∃ ts, part x ts) : ∃ ts, Run part xs ts := by
  induction xs with
  | nil => exact ⟨[], .nil⟩
  | cons x xs ih =>
    obtain ⟨⟨ts, hx⟩, hxs⟩ := List.forall_mem_cons.1 h
    obtain ⟨us, hus⟩ := ih hxs
    exact ⟨_, .cons hx hus⟩

theorem exists_terms (token : ω → Token) {operand : α → List Lexeme → Prop} {ops : List (ω × α)}
    (h : ∀ t ∈ ops, ∃ ts, operand t.2 ts) : ∃ ts, Run (Term token operand) ops ts := by
  refine exists_run fun x hx => ?_
  obtain ⟨op, y⟩ := x
  obtain ⟨ts, hts⟩ := h _ hx
  exact ⟨_, .mk (p := 0) hts⟩

/-- The operands of a chain whose operators are all the same. -/
theorem exists_operands (token : Unit → Token) {operand : α → List Lexeme → Prop} {xs : List α}
    (h : ∀ x ∈ xs, ∃ ts, operand x ts) :
    ∃ ops ts, xs = ops.map Prod.snd ∧ Run (Term token operand) ops ts := by
  have hmap : (xs.map fun x => ((), x)).map Prod.snd = xs := by
    rw [List.map_map]
    exact List.map_id xs
  have hops : ∀ s ∈ xs.map fun x => ((), x), ∃ ts, operand s.2 ts := List.forall_mem_map.2 h
  obtain ⟨ts, hrun⟩ := exists_terms token hops
  exact ⟨_, ts, hmap.symm, hrun⟩

/-! ### Parts of paths -/

/-- A step with a name of its own has a spelling that starts at any given offset. -/
theorem exists_step {arg : Expr → List Lexeme → Prop} {s : Segment} (hs : s.isNamed)
    (h : ∀ e ∈ s.args, ∃ ts, arg e ts) (p : Nat) : ∃ t ts, Step arg s (⟨t, p⟩ :: ts) := by
  cases s with
  | name x => exact ⟨_, _, .name⟩
  | key offset => exact absurd hs (by simp [Segment.isNamed])
  | call x args =>
    obtain ⟨ts, hargs⟩ := exists_listed h
    exact ⟨_, _, .call (q := 0) (r := 0) hargs⟩

theorem exists_further {arg : Expr → List Lexeme → Prop} {s : Segment}
    (h : ∀ e ∈ s.args, ∃ ts, arg e ts) : ∃ ts, Further arg s ts := by
  cases s with
  | name x => exact ⟨_, .member (p := 0) (.name (p := 0))⟩
  | key offset =>
    obtain ⟨ts, hts⟩ := h offset (by simp [Segment.args])
    exact ⟨_, .key (p := 0) (q := 0) hts⟩
  | call x args =>
    obtain ⟨t, ts, hstep⟩ := exists_step (s := .call x args) rfl h 0
    exact ⟨_, .member (p := 0) hstep⟩

end Grammar

/-! ### Trees -/

open Grammar

theorem exists_tokens {P : List Lexeme → Prop} {p : Nat} (h : ∃ t ts, P (⟨t, p⟩ :: ts)) :
    ∃ ts, P ts := by
  obtain ⟨t, ts, hts⟩ := h
  exact ⟨_, hts⟩

/-- Each tree of the grammar has a spelling, and one that starts at any given offset. -/
theorem Grammatical.exists_spells {r : Rank} {e : Expr} (h : Grammatical r e) (p : Nat) :
    ∃ t ts, Spells r e (⟨t, p⟩ :: ts) := by
  induction h generalizing p with
  | lift hr _ ih =>
    obtain ⟨t, ts, h⟩ := ih p
    exact ⟨t, ts, .lift hr h⟩
  | cond _ _ _ ihTest ihYes ihNo =>
    obtain ⟨t, ts, htest⟩ := ihTest p
    obtain ⟨_, us, hyes⟩ := ihYes 0
    obtain ⟨_, vs, hno⟩ := ihNo 0
    exact ⟨t, _, .cond (p := 0) (q := 0) htest hyes hno⟩
  | any hne _ _ ih ihs =>
    obtain ⟨t, ts, hfirst⟩ := ih p
    obtain ⟨ops, us, hrest, hops⟩ := exists_operands _ fun e he => exists_tokens (ihs e he 0)
    exact ⟨t, _, .any hrest hne hfirst hops⟩
  | all hne _ _ ih ihs =>
    obtain ⟨t, ts, hfirst⟩ := ih p
    obtain ⟨ops, us, hrest, hops⟩ := exists_operands _ fun e he => exists_tokens (ihs e he 0)
    exact ⟨t, _, .all hrest hne hfirst hops⟩
  | compare _ _ ihLeft ihRight =>
    obtain ⟨t, ts, hleft⟩ := ihLeft p
    obtain ⟨_, us, hright⟩ := ihRight 0
    exact ⟨t, _, .compare (p := 0) hleft hright⟩
  | sum hne _ _ ih ihs =>
    obtain ⟨t, ts, hfirst⟩ := ih p
    obtain ⟨us, hops⟩ := exists_terms _ fun x hx => exists_tokens (ihs x hx 0)
    exact ⟨t, _, .sum hne hfirst hops⟩
  | product hne _ _ ih ihs =>
    obtain ⟨t, ts, hfirst⟩ := ih p
    obtain ⟨us, hops⟩ := exists_terms _ fun x hx => exists_tokens (ihs x hx 0)
    exact ⟨t, _, .product hne hfirst hops⟩
  | @function params _ _ ih =>
    obtain ⟨_, us, hbody⟩ := ih 0
    have hnames : ∃ ts, Listed Named params ts := exists_listed fun x _ => ⟨_, .mk (p := 0)⟩
    obtain ⟨ts, hparams⟩ := hnames
    exact ⟨_, _, .function (p := 0) (.listed (q := 0) hparams) hbody⟩
  | wrapped _ ih =>
    obtain ⟨_, ts, hinner⟩ := ih 0
    exact ⟨_, _, .wrapped (q := 0) hinner⟩
  | not _ ih =>
    obtain ⟨_, ts, hoperand⟩ := ih (p + 1)
    exact ⟨_, _, .not hoperand⟩
  | list _ ih =>
    obtain ⟨ts, hitems⟩ := exists_listed fun e he => exists_tokens (ih e he 0)
    exact ⟨_, _, .list (q := 0) hitems⟩
  | @map entries _ ih =>
    have hlisted : ∃ ts, Listed (Property (Spells .expression)) entries ts := by
      refine exists_listed fun t ht => ?_
      obtain ⟨_, ts, hvalue⟩ := ih t ht 0
      exact ⟨_, .text (p := 0) (q := 0) hvalue⟩
    obtain ⟨ts, hentries⟩ := hlisted
    exact ⟨_, _, .map (q := 0) hentries⟩
  | boolean => exact ⟨_, _, .boolean⟩
  | number => exact ⟨_, _, .number⟩
  | text => exact ⟨_, _, .text⟩
  | path hnamed _ ih =>
    obtain ⟨ihHead, ihRest⟩ := List.forall_mem_cons.1 ih
    obtain ⟨t, ts, hhead⟩ := exists_step hnamed (fun e he => exists_tokens (ihHead e he 0)) p
    obtain ⟨us, hrun⟩ := exists_run fun s hs =>
      exists_further fun e he => exists_tokens (ihRest s hs e he 0)
    exact ⟨t, _, .path hhead hrun⟩

end HostExpr
