import HostExpr.Proofs.Grammar

/-!
# Expressions and paths inside an expression

* `Expr.parts`: the expressions directly inside an expression, and `Expr.induction_parts`, induction
  over them;
* `Expr.paths`: all paths inside an expression;
* `Spells.exists_of_mem_parts`: what stands inside a spelled expression is spelled by some of its tokens;
* `Expr.PathsNamed`: each path starts with a name or a call, as all paths do that can be written
  (`Spells.pathsNamed`).

Function bodies, both branches of a conditional and all operands of a chain count as parts, also
where an evaluation does not get to them.
-/

namespace HostExpr

/-! ### Parts and paths -/

namespace Expr

/-- The expressions directly inside an expression. -/
def parts : Expr → List Expr
  | cond test yes no => [test, yes, no]
  | any first rest => first :: rest
  | all first rest => first :: rest
  | compare _ left right => [left, right]
  | sum first rest => first :: rest.map Prod.snd
  | product first rest => first :: rest.map Prod.snd
  | function _ body => [body]
  | wrapped inner => [inner]
  | not operand => [operand]
  | list items => items
  | map entries => entries.map Prod.snd
  | boolean _ => []
  | number _ => []
  | text _ => []
  | path segments => segments.flatMap Segment.args

theorem sizeOf_lt_of_mem_map_snd {ω : Type} [SizeOf ω] {p : Expr} {ts : List (ω × Expr)}
    (h : p ∈ ts.map Prod.snd) : sizeOf p < sizeOf ts := by
  obtain ⟨t, ht, rfl⟩ := List.mem_map.1 h
  exact sizeOf_snd_lt_of_mem ht

theorem sizeOf_lt_of_mem_args {p : Expr} {s : Segment} (h : p ∈ s.args) : sizeOf p < sizeOf s := by
  cases s with
  | name x => exact absurd h List.not_mem_nil
  | key offset =>
    obtain rfl := List.mem_singleton.1 h
    simp
  | call method args =>
    have hlt : sizeOf p < sizeOf args := List.sizeOf_lt_of_mem h
    simp only [Segment.call.sizeOf_spec]
    omega

theorem sizeOf_lt_of_mem_parts {p e : Expr} (h : p ∈ e.parts) : sizeOf p < sizeOf e := by
  cases e with
  | cond test yes no =>
    simp only [parts, List.mem_cons, List.not_mem_nil, or_false] at h
    simp only [cond.sizeOf_spec]
    rcases h with rfl | rfl | rfl <;> omega
  | any first rest | all first rest =>
    simp only [any.sizeOf_spec, all.sizeOf_spec]
    rcases List.mem_cons.1 h with rfl | hmem
    · omega
    · have hlt := List.sizeOf_lt_of_mem hmem
      omega
  | compare op left right =>
    simp only [parts, List.mem_cons, List.not_mem_nil, or_false] at h
    simp only [compare.sizeOf_spec]
    rcases h with rfl | rfl <;> omega
  | sum first rest | product first rest =>
    simp only [sum.sizeOf_spec, product.sizeOf_spec]
    rcases List.mem_cons.1 h with rfl | hmem
    · omega
    · have hlt := sizeOf_lt_of_mem_map_snd hmem
      omega
  | function _ inner | wrapped inner | not inner =>
    obtain rfl := List.mem_singleton.1 h
    simp only [function.sizeOf_spec, wrapped.sizeOf_spec, not.sizeOf_spec]
    omega
  | list items =>
    have hlt : sizeOf p < sizeOf items := List.sizeOf_lt_of_mem h
    simp only [list.sizeOf_spec]
    omega
  | map entries =>
    have hlt := sizeOf_lt_of_mem_map_snd h
    simp only [map.sizeOf_spec]
    omega
  | boolean _ | number _ | text _ => exact absurd h List.not_mem_nil
  | path segments =>
    obtain ⟨s, hs, hp⟩ := List.mem_flatMap.1 h
    have hstep := List.sizeOf_lt_of_mem hs
    have hpart := sizeOf_lt_of_mem_args hp
    simp only [path.sizeOf_spec]
    omega

/-- A property that an expression has as soon as the expressions directly inside have it. -/
theorem induction_parts {P : Expr → Prop} (h : ∀ e, (∀ p ∈ e.parts, P p) → P e) (e : Expr) : P e :=
  h e fun p _ => induction_parts h p
  termination_by sizeOf e
  decreasing_by exact sizeOf_lt_of_mem_parts ‹_›

/-- The steps of an expression that is a path. -/
def steps? : Expr → Option (List Segment)
  | path segments => some segments
  | _ => none

/-- The paths inside an expression, each one with its steps. -/
def paths (e : Expr) : List (List Segment) :=
  e.steps?.toList ++ e.parts.attach.flatMap fun p => paths p.1
  termination_by sizeOf e
  decreasing_by exact sizeOf_lt_of_mem_parts p.2

theorem paths_eq (e : Expr) : e.paths = e.steps?.toList ++ e.parts.flatMap paths := by
  rw [paths, List.flatMap_subtype (g := paths) (fun _ _ => rfl), List.unattach_attach]

theorem forall_mem_paths {P : List Segment → Prop} {e : Expr} :
    (∀ ss ∈ e.paths, P ss) ↔
      (∀ ss, e.steps? = some ss → P ss) ∧ ∀ p ∈ e.parts, ∀ ss ∈ p.paths, P ss := by
  rw [paths_eq]
  simp only [List.forall_mem_append, List.forall_mem_flatMap, Option.mem_toList]

/-- Each path inside an expression starts with a name or a call. -/
def PathsNamed (e : Expr) : Prop :=
  ∀ ss ∈ e.paths, ∃ s rest, ss = s :: rest ∧ s.isNamed

end Expr

/-! ### Written expressions -/

namespace Grammar

variable {α ω : Type}

theorem Run.exists_of_mem {part : α → List Lexeme → Prop} {xs : List α} {ts : List Lexeme}
    (h : Run part xs ts) {x : α} (hx : x ∈ xs) : ∃ us, part x us ∧ us ⊆ ts := by
  induction h with
  | nil => exact absurd hx List.not_mem_nil
  | cons hpart _ ih =>
    rcases List.mem_cons.1 hx with rfl | hmem
    · exact ⟨_, hpart, List.subset_append_left ..⟩
    · obtain ⟨us, hus, hsub⟩ := ih hmem
      exact ⟨us, hus, List.subset_append_of_subset_right _ hsub⟩

theorem Listed.exists_of_mem {item : α → List Lexeme → Prop} {xs : List α} {ts : List Lexeme}
    (h : Listed item xs ts) {x : α} (hx : x ∈ xs) : ∃ us, item x us ∧ us ⊆ ts := by
  induction h with
  | nil => exact absurd hx List.not_mem_nil
  | last hitem =>
    obtain rfl := List.mem_singleton.1 hx
    exact ⟨_, hitem, List.Subset.refl _⟩
  | cons hitem _ ih =>
    rcases List.mem_cons.1 hx with rfl | hmem
    · exact ⟨_, hitem, List.subset_append_left ..⟩
    · obtain ⟨us, hus, hsub⟩ := ih hmem
      exact ⟨us, hus, List.subset_append_of_subset_right _ (List.subset_cons_of_subset _ hsub)⟩

/-- Each operand of a chain is spelled. -/
theorem Run.exists_operand {token : ω → Token} {operand : α → List Lexeme → Prop}
    {ops : List (ω × α)} {ts : List Lexeme} (h : Run (Term token operand) ops ts) {x : α}
    (hx : x ∈ ops.map Prod.snd) : ∃ us, operand x us ∧ us ⊆ ts := by
  obtain ⟨t, ht, rfl⟩ := List.mem_map.1 hx
  obtain ⟨_, hterm, hsub⟩ := h.exists_of_mem ht
  cases hterm with
  | mk hoperand => exact ⟨_, hoperand, List.subset_of_cons_subset hsub⟩

theorem Step.exists_of_mem {arg : Expr → List Lexeme → Prop} {s : Segment} {ts : List Lexeme}
    (h : Step arg s ts) {e : Expr} (he : e ∈ s.args) : ∃ us, arg e us ∧ us ⊆ ts := by
  cases h with
  | name => exact absurd he List.not_mem_nil
  | call hargs =>
    obtain ⟨us, hus, hsub⟩ := hargs.exists_of_mem he
    refine ⟨us, hus, List.subset_cons_of_subset _ (List.subset_cons_of_subset _ ?_)⟩
    exact List.subset_append_of_subset_left _ hsub

theorem Further.exists_of_mem {arg : Expr → List Lexeme → Prop} {s : Segment} {ts : List Lexeme}
    (h : Further arg s ts) {e : Expr} (he : e ∈ s.args) : ∃ us, arg e us ∧ us ⊆ ts := by
  cases h with
  | member hstep =>
    obtain ⟨us, hus, hsub⟩ := hstep.exists_of_mem he
    exact ⟨us, hus, List.subset_cons_of_subset _ hsub⟩
  | key hoffset =>
    obtain rfl := List.mem_singleton.1 he
    exact ⟨_, hoffset, by simp⟩

theorem Step.isNamed {arg : Expr → List Lexeme → Prop} {s : Segment} {ts : List Lexeme}
    (h : Step arg s ts) : s.isNamed := by
  cases h with
  | name => rfl
  | call _ => rfl

end Grammar

open Grammar

/-- A property that a rule of the grammar has as soon as the tighter rule has it. -/
theorem Rank.induction_tighter {P : Rank → Prop} (h : ∀ r, (r ≠ .operand → P r.tighter) → P r)
    (r : Rank) : P r := by
  have hoperand : P .operand := h .operand (absurd rfl)
  have hproduct : P .product := h .product fun _ => hoperand
  have hsum : P .sum := h .sum fun _ => hproduct
  have hcomparison : P .comparison := h .comparison fun _ => hsum
  have hconjunction : P .conjunction := h .conjunction fun _ => hcomparison
  have hdisjunction : P .disjunction := h .disjunction fun _ => hconjunction
  cases r with
  | expression => exact h .expression fun _ => hdisjunction
  | disjunction | conjunction | comparison | sum | product | operand => assumption

/-- What stands inside a spelled expression is spelled by some of its tokens. -/
theorem Spells.exists_of_mem_parts {r : Rank} {e : Expr} {ts : List Lexeme} (h : Spells r e ts)
    {p : Expr} (hp : p ∈ e.parts) : ∃ s us, Spells s p us ∧ us ⊆ ts := by
  have hoperand : ∀ {s : Rank} {first : Expr} {rest : List Expr} {us vs : List Lexeme},
      Spells s first us → (p ∈ rest → ∃ ws, Spells s p ws ∧ ws ⊆ vs) → p ∈ first :: rest →
      ∃ s ws, Spells s p ws ∧ ws ⊆ us ++ vs := by
    intro s first rest us vs hfirst hrest hp
    rcases List.mem_cons.1 hp with rfl | hmem
    · exact ⟨s, us, hfirst, List.subset_append_left ..⟩
    · obtain ⟨ws, hws, hsub⟩ := hrest hmem
      exact ⟨s, ws, hws, List.subset_append_of_subset_right _ hsub⟩
  induction r using Rank.induction_tighter with
  | h r ih =>
    cases h with
    | lift hr h => exact ih hr h
    | cond htest hyes hno =>
      simp only [Expr.parts, List.mem_cons, List.not_mem_nil, or_false] at hp
      rcases hp with rfl | rfl | rfl
      · exact ⟨_, _, htest, by simp⟩
      · exact ⟨_, _, hyes, fun l hl => by simp [hl]⟩
      · exact ⟨_, _, hno, fun l hl => by simp [hl]⟩
    | any hrest _ hfirst hrun | all hrest _ hfirst hrun =>
      exact hoperand hfirst (fun hmem => hrun.exists_operand (hrest ▸ hmem)) hp
    | compare hleft hright =>
      simp only [Expr.parts, List.mem_cons, List.not_mem_nil, or_false] at hp
      rcases hp with rfl | rfl
      · exact ⟨_, _, hleft, by simp⟩
      · exact ⟨_, _, hright, by simp⟩
    | sum _ hfirst hrun | product _ hfirst hrun =>
      exact hoperand hfirst hrun.exists_operand hp
    | function _ hinner | wrapped hinner | not hinner =>
      obtain rfl := List.mem_singleton.1 hp
      exact ⟨_, _, hinner, by simp⟩
    | list hitems =>
      obtain ⟨us, hus, hsub⟩ := hitems.exists_of_mem hp
      refine ⟨_, us, hus, List.subset_cons_of_subset _ ?_⟩
      exact List.subset_append_of_subset_left _ hsub
    | map hentries =>
      obtain ⟨t, ht, rfl⟩ := List.mem_map.1 hp
      obtain ⟨us, hproperty, hsub⟩ := hentries.exists_of_mem ht
      have hvalue : ∃ vs, Spells .expression t.2 vs ∧ vs ⊆ us := by
        cases hproperty with
        | text hvalue | identifier hvalue => exact ⟨_, hvalue, by simp⟩
      obtain ⟨vs, hvs, hsub'⟩ := hvalue
      refine ⟨_, vs, hvs, List.subset_cons_of_subset _ ?_⟩
      exact List.subset_append_of_subset_left _ (List.Subset.trans hsub' hsub)
    | boolean | number | text => exact absurd hp List.not_mem_nil
    | path hhead hrun =>
      obtain ⟨s, hs, harg⟩ := List.mem_flatMap.1 hp
      rcases List.mem_cons.1 hs with rfl | hmem
      · obtain ⟨us, hus, hsub⟩ := hhead.exists_of_mem harg
        exact ⟨_, us, hus, List.subset_append_of_subset_left _ hsub⟩
      · obtain ⟨us, hfurther, hsub⟩ := hrun.exists_of_mem hmem
        obtain ⟨vs, hvs, hsub'⟩ := hfurther.exists_of_mem harg
        exact ⟨_, vs, hvs, List.subset_append_of_subset_right _ (List.Subset.trans hsub' hsub)⟩

theorem Spells.head_isNamed {r : Rank} {e : Expr} {ts : List Lexeme} (h : Spells r e ts)
    {ss : List Segment} (hss : e.steps? = some ss) : ∃ s rest, ss = s :: rest ∧ s.isNamed := by
  induction r using Rank.induction_tighter with
  | h r ih =>
    cases h with
    | lift hr h => exact ih hr h
    | path hhead _ =>
      obtain rfl := Option.some.inj hss
      exact ⟨_, _, rfl, hhead.isNamed⟩
    | _ => exact absurd hss (by simp [Expr.steps?])

/-- In an expression that can be written each path starts with a name or a call. -/
theorem Spells.pathsNamed {r : Rank} {e : Expr} {ts : List Lexeme} (h : Spells r e ts) :
    e.PathsNamed := by
  induction e using Expr.induction_parts generalizing r ts with
  | h e ih =>
    refine Expr.forall_mem_paths.2 ⟨fun ss hss => h.head_isNamed hss, fun p hp => ?_⟩
    obtain ⟨s, us, hspells, -⟩ := h.exists_of_mem_parts hp
    exact ih p hp hspells

end HostExpr
