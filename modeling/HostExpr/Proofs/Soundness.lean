import HostExpr.Proofs.Grammar
import HostExpr.Proofs.Reading

/-!
# What is read is what stands there

Whenever a reading succeeds, the tokens that it has used up spell its result: none is passed over,
made up, read twice or moved.

* `Parse.Sound`: the tokens that a reading uses up stand in a given relation to its result;
* `Parse.levels_sound`: an expression is spelled by the tokens that were read for it;
* `Parser.spells_of_input`: a whole input is spelled by the tokens before the first end of the text.

The proofs follow the rules of the parser, for any readings `sub` and `bang` of the expressions and
operands one level further down; `Parse.levels_sound` ties them together by induction on the levels.
-/

namespace HostExpr

open Grammar

namespace Parse

open Stateful

variable {α ω : Type} {S : α → List Lexeme → Prop} {P : α → Prop}

/-! ### Readings and what they use up -/

/-- The tokens that a reading uses up stand in the relation `S` to its result, which has the
property `P`. -/
def Sound (S : α → List Lexeme → Prop) (P : α → Prop) (p : Parse α) : Prop :=
  ∀ ts x rest, p ts = .ok x rest → ∃ used, Reads ts used rest ∧ S x used ∧ P x

/-- A reading that finds nothing uses up nothing, and else the tokens stand in the relation `S` to
what it finds, which has the property `P`. -/
def Finds (S : α → List Lexeme → Prop) (P : α → Prop) (p : Parse (Option α)) : Prop :=
  (∀ ts rest, p ts = .ok none rest → rest = ts) ∧
    ∀ ts x rest, p ts = .ok (some x) rest → ∃ used, Reads ts used rest ∧ S x used ∧ P x

/-! ### Repetition -/

theorem upTo_sound {step : Parse (Option α)} (hstep : Finds S P step) (n : Nat) :
    Sound (Run S) (fun xs => ∀ x ∈ xs, P x) (upTo n step) := by
  induction n with
  | zero =>
    intro ts xs rest h
    obtain ⟨rfl, rfl⟩ := pure_eq_ok.1 h
    exact ⟨[], .nil, .nil, by simp⟩
  | succ n ih =>
    intro ts xs rest h
    obtain ⟨o, us, ho, h⟩ := bind_eq_ok.1 h
    cases o with
    | none =>
      obtain ⟨rfl, rfl⟩ := pure_eq_ok.1 h
      obtain rfl := hstep.1 ts us ho
      exact ⟨[], .nil, .nil, by simp⟩
    | some x =>
      obtain ⟨ys, vs, hys, h⟩ := bind_eq_ok.1 h
      obtain ⟨rfl, rfl⟩ := pure_eq_ok.1 h
      obtain ⟨used, hused, hx, hPx⟩ := hstep.2 ts x us ho
      obtain ⟨more, hmore, hrun, hP⟩ := ih us ys vs hys
      exact ⟨used ++ more, hused.append hmore, .cons hx hrun, List.forall_mem_cons.2 ⟨hPx, hP⟩⟩

theorem many_sound {step : Parse (Option α)} (hstep : Finds S P step) :
    Sound (Run S) (fun xs => ∀ x ∈ xs, P x) (many step) := by
  intro ts xs rest h
  exact upTo_sound hstep ts.length ts xs rest h

/-- What follows an item of a list: nothing, or a comma and the further items. -/
theorem afterComma_sound {item : Parse (Option α)} (hitem : Finds S P item) (n : Nat) :
    ∀ ts xs rest, upTo n (afterComma item) ts = .ok xs rest →
      (xs = [] ∧ rest = ts) ∨
        ∃ p used, Reads ts (⟨.comma, p⟩ :: used) rest ∧ Listed S xs used ∧ ∀ x ∈ xs, P x := by
  induction n with
  | zero =>
    intro ts xs rest h
    obtain ⟨rfl, rfl⟩ := pure_eq_ok.1 h
    exact .inl ⟨rfl, rfl⟩
  | succ n ih =>
    intro ts xs rest h
    obtain ⟨o, us, hstep, htail⟩ := bind_eq_ok.1 h
    obtain ⟨b, vs, hb, ho⟩ := bind_eq_ok.1 hstep
    cases b with
    | false =>
      obtain ⟨hvs, -⟩ := accept_eq_false hb
      obtain ⟨rfl, hus⟩ := pure_eq_ok.1 ho
      obtain ⟨rfl, hrest⟩ := pure_eq_ok.1 htail
      exact .inl ⟨rfl, (hvs.symm.trans (hus.trans hrest)).symm⟩
    | true =>
      obtain ⟨p, rfl⟩ := accept_eq_true (by decide) hb
      cases o with
      | none =>
        obtain rfl := hitem.1 vs us ho
        obtain ⟨rfl, rfl⟩ := pure_eq_ok.1 htail
        exact .inr ⟨p, [], .one (by simp), .nil, by simp⟩
      | some x =>
        obtain ⟨ys, ws, hys, hxs⟩ := bind_eq_ok.1 htail
        obtain ⟨rfl, rfl⟩ := pure_eq_ok.1 hxs
        obtain ⟨used, hused, hx, hPx⟩ := hitem.2 vs x us ho
        obtain ⟨rfl, rfl⟩ | ⟨q, more, hmore, hlist, hP⟩ := ih us ys ws hys
        · exact .inr ⟨p, used, hused.cons (by simp), .last hx, by simpa using hPx⟩
        · exact .inr ⟨p, _, (hused.append hmore).cons (by simp), .cons hx hlist,
            List.forall_mem_cons.2 ⟨hPx, hP⟩⟩

theorem listOf_sound {item : Parse (Option α)} (hitem : Finds S P item) :
    Sound (Listed S) (fun xs => ∀ x ∈ xs, P x) (listOf item) := by
  intro ts xs rest h
  obtain ⟨o, us, ho, h⟩ := bind_eq_ok.1 h
  cases o with
  | none =>
    obtain ⟨rfl, rfl⟩ := pure_eq_ok.1 h
    obtain rfl := hitem.1 ts us ho
    exact ⟨[], .nil, .nil, by simp⟩
  | some x =>
    obtain ⟨ys, vs, hys, h⟩ := bind_eq_ok.1 h
    obtain ⟨rfl, rfl⟩ := pure_eq_ok.1 h
    obtain ⟨used, hused, hx, hPx⟩ := hitem.2 ts x us ho
    obtain ⟨rfl, rfl⟩ | ⟨p, more, hmore, hlist, hP⟩ := afterComma_sound hitem us.length us ys vs hys
    · exact ⟨used, hused, .last hx, by simpa using hPx⟩
    · exact ⟨_, hused.append hmore, .cons hx hlist, List.forall_mem_cons.2 ⟨hPx, hP⟩⟩

theorem term_sound {op? : Token → Option ω} {token : ω → Token} (htoken : Recognises op? token)
    (heof : op? .eof = none) {operand : Parse α} (hoperand : Sound S P operand) :
    Finds (Term token S) (fun t => P t.2) (term op? operand) := by
  constructor
  · intro ts rest h
    cases hop : op? (first ts).token with
    | none =>
      rw [term_of_none operand hop] at h
      exact (pure_eq_ok.1 h).2.symm
    | some op =>
      rw [term_of_some operand hop] at h
      obtain ⟨x, us, -, h⟩ := bind_eq_ok.1 h
      exact absurd (pure_eq_ok.1 h).1 (by simp)
  · intro ts t rest h
    cases hop : op? (first ts).token with
    | none =>
      rw [term_of_none operand hop] at h
      exact absurd (pure_eq_ok.1 h).1 (by simp)
    | some op =>
      rw [term_of_some operand hop] at h
      have hne : (first ts).token ≠ .eof := fun e => by
        rw [e, heof] at hop
        exact absurd hop (by simp)
      obtain ⟨x, us, hx, h⟩ := bind_eq_ok.1 h
      obtain ⟨ht, rfl⟩ := pure_eq_ok.1 h
      obtain rfl := Option.some.inj ht
      obtain ⟨used, hused, hSx, hPx⟩ := hoperand _ x us hx
      have ht := (htoken _ _).1 hop
      rw [ht] at hne
      rw [eq_cons_of_first ht hne]
      exact ⟨_, hused.cons hne, .mk hSx, hPx⟩

theorem chain_sound {op? : Token → Option ω} {token : ω → Token} (htoken : Recognises op? token)
    (heof : op? .eof = none) {operand : Parse α} (hoperand : Sound S P operand) :
    Sound (fun x used => ∃ us vs, used = us ++ vs ∧ S x.1 us ∧ Run (Term token S) x.2 vs)
      (fun x => P x.1 ∧ ∀ t ∈ x.2, P t.2) (chain op? operand) := by
  intro ts x rest h
  obtain ⟨y, us, hy, h⟩ := bind_eq_ok.1 h
  obtain ⟨ops, vs, hops, h⟩ := bind_eq_ok.1 h
  obtain ⟨rfl, rfl⟩ := pure_eq_ok.1 h
  obtain ⟨used, hused, hSy, hPy⟩ := hoperand ts y us hy
  obtain ⟨more, hmore, hrun, hP⟩ := many_sound (term_sound htoken heof hoperand) us ops vs hops
  exact ⟨_, hused.append hmore, ⟨used, more, rfl, hSy, hrun⟩, hPy, hP⟩

/-! ### Heads of functions -/

theorem names_sound (ts : List Lexeme) :
    ∃ used, Reads ts used (names ts).2 ∧ Listed Named (names ts).1 used := by
  fun_induction names ts with
  | case1 name p q rest more after hmore ih =>
    rw [hmore] at ih
    obtain ⟨used, hused, hlist⟩ := ih
    exact ⟨_, ((Reads.one (by simp)).append (hused.cons (by simp))), .cons .mk hlist⟩
  | case2 name p rest hne => exact ⟨_, .one (by simp), .last .mk⟩
  | case3 rest hcomma hname => exact ⟨[], .nil, .nil⟩

theorem functionHead?_sound {ts rest : List Lexeme} {params : List String}
    (h : functionHead? ts = some (params, rest)) :
    ∃ used p, Reads ts (used ++ [⟨.arrow, p⟩]) rest ∧ Params params used := by
  unfold functionHead? at h
  split at h
  · next p us =>
    split at h
    · next xs q r vs hnames =>
      obtain ⟨rfl, rfl⟩ := Prod.mk.inj (Option.some.inj h)
      have hsound := names_sound us
      rw [hnames] at hsound
      obtain ⟨used, hused, hlist⟩ := hsound
      have hclosed := hused.concat (by simp)
      exact ⟨_, r, (hclosed.cons (by simp)).concat (by simp), .listed hlist⟩
    · exact absurd h (by simp)
  · next x p q vs =>
    obtain ⟨rfl, rfl⟩ := Prod.mk.inj (Option.some.inj h)
    have harrow : Reads (⟨.arrow, q⟩ :: vs) [⟨.arrow, q⟩] vs := .one (by simp)
    exact ⟨[⟨.identifier x, p⟩], q, harrow.cons (by simp), .bare⟩
  · exact absurd h (by simp)

/-! ### Paths and operands -/

section

variable {n : Nat} {sub bang : Parse Expr}

theorem expression?_sound (hsub : Sound (Spells .expression) (·.depth < n) sub) :
    Finds (Spells .expression) (·.depth < n) (expression? sub) := by
  constructor
  · intro ts rest h
    obtain ⟨l, us, hl, h⟩ := bind_eq_ok.1 h
    obtain ⟨rfl, rfl⟩ := peek_eq_ok hl
    cases hstart : startsExpression (first us).token with
    | false =>
      rw [hstart] at h
      exact (pure_eq_ok.1 h).2.symm
    | true =>
      rw [hstart] at h
      obtain ⟨e, -, he⟩ := map_eq_ok.1 h
      exact absurd he (by simp)
  · intro ts e rest h
    obtain ⟨l, us, hl, h⟩ := bind_eq_ok.1 h
    obtain ⟨rfl, rfl⟩ := peek_eq_ok hl
    cases hstart : startsExpression (first us).token with
    | false =>
      rw [hstart] at h
      exact absurd (pure_eq_ok.1 h).1 (by simp)
    | true =>
      rw [hstart] at h
      obtain ⟨x, hx, he⟩ := map_eq_ok.1 h
      obtain rfl := Option.some.inj he
      exact hsub us x rest hx

theorem step_sound (hsub : Sound (Spells .expression) (·.depth < n) sub) :
    Sound (Step (Spells .expression)) (fun s => ∀ e ∈ s.args, e.depth < n) (step sub) := by
  intro ts s rest h
  obtain ⟨l, us, hl, h⟩ := bind_eq_ok.1 h
  obtain ⟨rfl, rfl⟩ := peek_eq_ok hl
  generalize ht : (first us).token = t at h
  split at h
  · next _ x =>
    rw [eq_cons_of_first ht (by simp)]
    obtain ⟨_, vs, hvs, h⟩ := bind_eq_ok.1 h
    obtain rfl := advance_eq_ok hvs
    obtain ⟨b, ws, hb, h⟩ := bind_eq_ok.1 h
    cases b with
    | false =>
      obtain ⟨rfl, -⟩ := accept_eq_false hb
      obtain ⟨rfl, rfl⟩ := pure_eq_ok.1 h
      exact ⟨_, .one (by simp), .name, by simp [Segment.args]⟩
    | true =>
      obtain ⟨q, hq⟩ := accept_eq_true (by decide) hb
      obtain ⟨args, xs, hargs, h⟩ := bind_eq_ok.1 h
      obtain ⟨_, ys, hclose, h⟩ := bind_eq_ok.1 h
      obtain ⟨rfl, rfl⟩ := pure_eq_ok.1 h
      obtain ⟨r, rfl⟩ := close_eq_ok hclose
      obtain ⟨used, hused, hlist, hP⟩ := listOf_sound (expression?_sound hsub) ws args _ hargs
      rw [hq]
      have hclosed := hused.concat (closing_ne_eof .arguments)
      exact ⟨_, (hclosed.cons (by simp)).cons (by simp), .call hlist, hP⟩
  · obtain ⟨l, vs, -, h⟩ := bind_eq_ok.1 h
    exact absurd h throw_ne_ok

theorem step?_sound (hsub : Sound (Spells .expression) (·.depth < n) sub) :
    Finds (Further (Spells .expression)) (fun s => ∀ e ∈ s.args, e.depth < n) (step? sub) := by
  constructor
  · intro ts rest h
    obtain ⟨b, us, hb, hafter⟩ := bind_eq_ok.1 h
    cases b with
    | true =>
      obtain ⟨s, -, hs⟩ := map_eq_ok.1 hafter
      exact absurd hs (by simp)
    | false =>
      obtain ⟨hus, -⟩ := accept_eq_false hb
      obtain ⟨c, vs, hc, hnone⟩ := bind_eq_ok.1 hafter
      cases c with
      | true =>
        obtain ⟨e, ws, -, hnone⟩ := bind_eq_ok.1 hnone
        obtain ⟨_, xs, -, hnone⟩ := bind_eq_ok.1 hnone
        exact absurd (pure_eq_ok.1 hnone).1 (by simp)
      | false =>
        obtain ⟨hvs, -⟩ := accept_eq_false hc
        obtain ⟨-, hrest⟩ := pure_eq_ok.1 hnone
        exact hrest.symm.trans (hvs.trans hus)
  · intro ts s rest h
    obtain ⟨b, us, hb, hafter⟩ := bind_eq_ok.1 h
    cases b with
    | true =>
      obtain ⟨p, rfl⟩ := accept_eq_true (by decide) hb
      obtain ⟨x, hx, hs⟩ := map_eq_ok.1 hafter
      obtain rfl := Option.some.inj hs
      obtain ⟨used, hused, hstep, hP⟩ := step_sound hsub us x rest hx
      exact ⟨_, hused.cons (by simp), .member hstep, hP⟩
    | false =>
      obtain ⟨hus, -⟩ := accept_eq_false hb
      obtain ⟨c, vs, hc, hsome⟩ := bind_eq_ok.1 hafter
      cases c with
      | true =>
        obtain ⟨p, hvs⟩ := accept_eq_true (by decide) hc
        obtain ⟨e, ws, he, hsome⟩ := bind_eq_ok.1 hsome
        obtain ⟨_, xs, hclose, hsome⟩ := bind_eq_ok.1 hsome
        obtain ⟨hs, rfl⟩ := pure_eq_ok.1 hsome
        obtain rfl := Option.some.inj hs
        obtain ⟨q, rfl⟩ := close_eq_ok hclose
        obtain ⟨used, hused, hspells, hP⟩ := hsub vs e _ he
        rw [← hus, hvs]
        refine ⟨_, (hused.concat (closing_ne_eof .offset)).cons (by simp), .key hspells, ?_⟩
        simpa [Segment.args] using hP
      | false => exact absurd (pure_eq_ok.1 hsome).1 (by simp)

theorem path_sound (hsub : Sound (Spells .expression) (·.depth < n) sub) :
    Sound (Spells .operand) (·.depth < n + 1) (path sub) := by
  intro ts e rest h
  obtain ⟨head, us, hhead, h⟩ := bind_eq_ok.1 h
  obtain ⟨steps, vs, hsteps, h⟩ := bind_eq_ok.1 h
  obtain ⟨rfl, rfl⟩ := pure_eq_ok.1 h
  obtain ⟨used, hused, hstep, hP⟩ := step_sound hsub ts head us hhead
  obtain ⟨more, hmore, hrun, hPs⟩ := many_sound (step?_sound hsub) us steps vs hsteps
  have hdepth : (Expr.path (head :: steps)).depth < n + 1 :=
    Expr.depth_path_lt.2 (List.forall_mem_cons.2 ⟨hP, hPs⟩)
  exact ⟨_, hused.append hmore, .path hstep hrun, hdepth⟩

/-- An entry whose key is the first token. -/
theorem entry_sound (hsub : Sound (Spells .expression) (·.depth < n) sub) {key : String}
    {ts rest : List Lexeme} {o : Option (String × Expr)}
    (h : (do advance; separator .property; return some (key, ← sub) : Parse _) ts = .ok o rest) :
    ∃ e q used, o = some (key, e) ∧ Reads (afterFirst ts) (⟨.colon, q⟩ :: used) rest ∧
      Spells .expression e used ∧ e.depth < n := by
  obtain ⟨_, us, hus, h⟩ := bind_eq_ok.1 h
  obtain rfl := advance_eq_ok hus
  obtain ⟨_, us, hcolon, h⟩ := bind_eq_ok.1 h
  obtain ⟨e, vs, he, h⟩ := bind_eq_ok.1 h
  obtain ⟨rfl, rfl⟩ := pure_eq_ok.1 h
  obtain ⟨q, heq⟩ := separator_eq_ok hcolon
  obtain ⟨used, hused, hspells, hP⟩ := hsub us e vs he
  rw [heq]
  exact ⟨e, q, used, rfl, hused.cons (by simp), hspells, hP⟩

theorem property?_sound (hsub : Sound (Spells .expression) (·.depth < n) sub) :
    Finds (Property (Spells .expression)) (fun t => t.2.depth < n) (property? sub) := by
  constructor
  · intro ts rest h
    obtain ⟨l, us, hl, h⟩ := bind_eq_ok.1 h
    obtain ⟨rfl, rfl⟩ := peek_eq_ok hl
    generalize ht : (first us).token = t at h
    split at h
    · obtain ⟨e, q, used, he, -⟩ := entry_sound hsub h
      exact absurd he (by simp)
    · obtain ⟨e, q, used, he, -⟩ := entry_sound hsub h
      exact absurd he (by simp)
    · exact (pure_eq_ok.1 h).2.symm
  · intro ts x rest h
    obtain ⟨l, us, hl, h⟩ := bind_eq_ok.1 h
    obtain ⟨rfl, rfl⟩ := peek_eq_ok hl
    generalize ht : (first us).token = t at h
    split at h
    · next _ key =>
      obtain ⟨e, q, used, he, hused, hspells, hP⟩ := entry_sound hsub h
      obtain rfl := Option.some.inj he
      rw [eq_cons_of_first ht (by simp)]
      exact ⟨_, hused.cons (by simp), .text hspells, hP⟩
    · next _ key =>
      obtain ⟨e, q, used, he, hused, hspells, hP⟩ := entry_sound hsub h
      obtain rfl := Option.some.inj he
      rw [eq_cons_of_first ht (by simp)]
      exact ⟨_, hused.cons (by simp), .identifier hspells, hP⟩
    · exact absurd (pure_eq_ok.1 h).1 (by simp)

/-- Something between a first token and the closing one. -/
theorem bracketed_sound {p : Parse α} (hp : Sound S P p) {f : α → Expr} {c : Bracketed} {t : Token}
    {e : Expr} {ts rest : List Lexeme} (ht : (first ts).token = t) (hne : t ≠ .eof)
    (hspells : ∀ {x us i j}, S x us →
      Spells .operand (f x) (⟨t, i⟩ :: (us ++ [⟨c.closing, j⟩])))
    (hdepth : ∀ {x}, P x → (f x).depth < n)
    (h : (do advance; let x ← p; close c; return f x : Parse Expr) ts = .ok e rest) :
    ∃ used, Reads ts used rest ∧ Spells .operand e used ∧ e.depth < n := by
  have hts := eq_cons_of_first ht hne
  obtain ⟨_, us, hus, h⟩ := bind_eq_ok.1 h
  obtain rfl := advance_eq_ok hus
  obtain ⟨x, vs, hx, h⟩ := bind_eq_ok.1 h
  obtain ⟨_, ws, hclose, h⟩ := bind_eq_ok.1 h
  obtain ⟨rfl, rfl⟩ := pure_eq_ok.1 h
  obtain ⟨j, rfl⟩ := close_eq_ok hclose
  obtain ⟨used, hused, hS, hP⟩ := hp _ x _ hx
  have hreads := (hused.concat (closing_ne_eof c)).cons (l := ⟨t, (first ts).position⟩) hne
  rw [← hts] at hreads
  exact ⟨_, hreads, hspells hS, hdepth hP⟩

/-- An operand of a single token. -/
theorem literal_sound {t : Token} {e x : Expr} {ts rest : List Lexeme}
    (ht : (first ts).token = t) (hne : t ≠ .eof) (hspells : ∀ p, Spells .operand e [⟨t, p⟩])
    (hdepth : e.depth = 0) (h : (do advance; return e : Parse Expr) ts = .ok x rest) :
    ∃ used, Reads ts used rest ∧ Spells .operand x used ∧ x.depth < n + 1 := by
  obtain ⟨_, us, hus, h⟩ := bind_eq_ok.1 h
  obtain rfl := advance_eq_ok hus
  obtain ⟨rfl, rfl⟩ := pure_eq_ok.1 h
  have hreads : Reads ts [⟨t, (first ts).position⟩] (afterFirst ts) :=
    ⟨eq_cons_of_first ht hne, List.forall_mem_singleton.2 hne⟩
  exact ⟨_, hreads, hspells _, by omega⟩

theorem plainOperand_sound (hsub : Sound (Spells .expression) (·.depth < n) sub)
    (hbang : Sound (Spells .operand) (·.depth < n) bang) :
    Sound (Spells .operand) (·.depth < n + 1) (plainOperand sub bang) := by
  intro ts e rest h
  obtain ⟨l, us, hl, h⟩ := bind_eq_ok.1 h
  obtain ⟨rfl, rfl⟩ := peek_eq_ok hl
  generalize ht : (first us).token = t at h
  split at h
  case h_1 => -- a parenthesis
    exact bracketed_sound hsub ht (by simp) .wrapped
      (fun hP => by rw [Expr.depth]; exact Nat.succ_lt_succ hP) h
  case h_2 => -- a `!`
    obtain ⟨_, vs, hvs, h⟩ := bind_eq_ok.1 h
    obtain rfl := advance_eq_ok hvs
    obtain ⟨l, ws, hl, h⟩ := bind_eq_ok.1 h
    obtain ⟨rfl, rfl⟩ := peek_eq_ok hl
    split at h
    · next hpos =>
      obtain ⟨operand, xs, hoperand, h⟩ := bind_eq_ok.1 h
      obtain ⟨rfl, rfl⟩ := pure_eq_ok.1 h
      obtain ⟨used, hused, hspells, hP⟩ := hbang _ operand xs hoperand
      obtain ⟨t, p, more, rfl, -⟩ := hspells.starts
      have hp : p = (first us).position + 1 := by
        rw [hused.1] at hpos
        exact hpos
      subst hp
      rw [eq_cons_of_first ht (by simp)]
      exact ⟨_, hused.cons (by simp), .not hspells, by
        simpa only [Expr.depth] using Nat.succ_lt_succ hP⟩
    · exact absurd h throw_ne_ok
  case h_3 => -- a list
    exact bracketed_sound (listOf_sound (expression?_sound hsub)) ht (by simp) .list
      Expr.depth_list_lt.2 h
  case h_4 => -- a map
    exact bracketed_sound (listOf_sound (property?_sound hsub)) ht (by simp) .map
      Expr.depth_map_lt.2 h
  case h_5 => exact literal_sound ht (by simp) (fun _ => .boolean) (by rw [Expr.depth]) h
  case h_6 => exact literal_sound ht (by simp) (fun _ => .number) (by rw [Expr.depth]) h
  case h_7 => exact literal_sound ht (by simp) (fun _ => .text) (by rw [Expr.depth]) h
  case h_8 => exact path_sound hsub us e rest h
  case h_9 =>
    obtain ⟨l, vs, -, h⟩ := bind_eq_ok.1 h
    exact absurd h throw_ne_ok

theorem simple_sound (hsub : Sound (Spells .expression) (·.depth < n) sub)
    (hbang : Sound (Spells .operand) (·.depth < n) bang) :
    Sound (Spells .operand) (·.depth < n + 1) (simple sub bang) := by
  intro ts e rest h
  obtain ⟨us, vs, hget, h⟩ := bind_eq_ok.1 h
  obtain ⟨rfl, rfl⟩ : ts = us ∧ ts = vs := EStateM.Result.ok.inj hget
  cases hhead : functionHead? ts with
  | none =>
    rw [hhead] at h
    exact plainOperand_sound hsub hbang ts e rest h
  | some head =>
    obtain ⟨params, us⟩ := head
    rw [hhead] at h
    obtain ⟨_, vs, hset, h⟩ := bind_eq_ok.1 h
    obtain rfl : us = vs := (EStateM.Result.ok.inj hset).2
    obtain ⟨body, ws, hbody, h⟩ := bind_eq_ok.1 h
    obtain ⟨rfl, rfl⟩ := pure_eq_ok.1 h
    obtain ⟨used, p, hused, hparams⟩ := functionHead?_sound hhead
    obtain ⟨more, hmore, hspells, hP⟩ := hsub us body ws hbody
    refine ⟨_, hused.append hmore, ?_, ?_⟩
    · rw [List.append_assoc]
      exact .function hparams hspells
    · simpa only [Expr.depth] using Nat.succ_lt_succ hP

/-! ### Chains -/

/-- A chain with at least one operator is a node of its own, and a single operand is read as a part
of the looser rule. -/
theorem chainTree_sound {r : Rank} (hr : r ≠ .operand) {op? : Token → Option ω}
    {token : ω → Token} (htoken : Recognises op? token) (heof : op? .eof = none)
    (node : Expr → List (ω × Expr) → Expr) {operand : Parse Expr}
    (hnode : ∀ x ops ts us, ops ≠ [] → Spells r.tighter x ts →
      Run (Term token (Spells r.tighter)) ops us → Spells r (node x ops) (ts ++ us))
    (hdepth : ∀ x ops, (node x ops).depth = max x.depth (highest (ops.map fun t => t.2.depth)))
    (hoperand : Sound (Spells r.tighter) (·.depth < n + 1) operand) :
    Sound (Spells r) (·.depth < n + 1) (chainTree node op? operand) := by
  intro ts e rest h
  obtain ⟨⟨x, ops⟩, us, hchain, h⟩ := bind_eq_ok.1 h
  obtain ⟨used, hused, ⟨vs, ws, rfl, hx, hrun⟩, hP, hPs⟩ := chain_sound htoken heof hoperand ts _ us hchain
  cases ops with
  | nil =>
    obtain ⟨rfl, rfl⟩ := pure_eq_ok.1 h
    cases hrun
    rw [List.append_nil] at hused
    exact ⟨_, hused, .lift hr hx, hP⟩
  | cons op ops =>
    obtain ⟨rfl, rfl⟩ := pure_eq_ok.1 h
    refine ⟨_, hused, hnode _ _ _ _ (by simp) hx hrun, ?_⟩
    show (node x (op :: ops)).depth < n + 1
    rw [hdepth, Nat.lt_succ_iff, Nat.max_le, highest_le, List.forall_mem_map]
    exact ⟨Nat.lt_succ_iff.1 hP, fun t ht => Nat.lt_succ_iff.1 (hPs t ht)⟩

theorem product_sound (hsub : Sound (Spells .expression) (·.depth < n) sub)
    (hbang : Sound (Spells .operand) (·.depth < n) bang) :
    Sound (Spells .product) (·.depth < n + 1) (product sub bang) := by
  rw [product_eq]
  exact chainTree_sound (by simp) recognises_mulOp? rfl .product
    (fun _ _ _ _ hne hx hrun => .product hne hx hrun) (fun _ _ => by rw [Expr.depth])
    (simple_sound hsub hbang)

theorem sum_sound (hsub : Sound (Spells .expression) (·.depth < n) sub)
    (hbang : Sound (Spells .operand) (·.depth < n) bang) :
    Sound (Spells .sum) (·.depth < n + 1) (sum sub bang) := by
  rw [sum_eq]
  exact chainTree_sound (by simp) recognises_addOp? rfl .sum
    (fun _ _ _ _ hne hx hrun => .sum hne hx hrun) (fun _ _ => by rw [Expr.depth])
    (product_sound hsub hbang)

theorem comparison_sound (hsub : Sound (Spells .expression) (·.depth < n) sub)
    (hbang : Sound (Spells .operand) (·.depth < n) bang) :
    Sound (Spells .comparison) (·.depth < n + 1) (comparison sub bang) := by
  intro ts e rest h
  obtain ⟨left, us, hleft, h⟩ := bind_eq_ok.1 h
  obtain ⟨used, hused, hspells, hP⟩ := sum_sound hsub hbang ts left us hleft
  obtain ⟨l, vs, hl, h⟩ := bind_eq_ok.1 h
  obtain ⟨rfl, rfl⟩ := peek_eq_ok hl
  cases hop : compareOp? (first vs).token with
  | none =>
    rw [hop] at h
    obtain ⟨rfl, rfl⟩ := pure_eq_ok.1 h
    exact ⟨_, hused, .lift (by simp) hspells, hP⟩
  | some op =>
    rw [hop] at h
    have hne : (first vs).token ≠ .eof := fun e => by
      rw [e] at hop
      exact absurd hop (by simp [compareOp?])
    obtain ⟨_, ws, hws, h⟩ := bind_eq_ok.1 h
    obtain rfl := advance_eq_ok hws
    obtain ⟨right, xs, hright, h⟩ := bind_eq_ok.1 h
    obtain ⟨rfl, rfl⟩ := pure_eq_ok.1 h
    obtain ⟨more, hmore, hspells', hP'⟩ := sum_sound hsub hbang _ right xs hright
    have ht := (recognises_compareOp? _ _).1 hop
    rw [ht] at hne
    rw [eq_cons_of_first ht hne] at hused
    refine ⟨_, hused.append (hmore.cons hne), .compare hspells hspells', ?_⟩
    simpa only [Expr.depth] using Nat.max_lt.2 ⟨hP, hP'⟩

theorem conjunction_sound (hsub : Sound (Spells .expression) (·.depth < n) sub)
    (hbang : Sound (Spells .operand) (·.depth < n) bang) :
    Sound (Spells .conjunction) (·.depth < n + 1) (conjunction sub bang) := by
  rw [conjunction_eq]
  exact chainTree_sound (by simp) recognises_andOp? rfl (fun x ops => .all x (ops.map Prod.snd))
    (fun _ _ _ _ hne hx hrun => .all rfl (by simpa using hne) hx hrun)
    (fun _ _ => by rw [Expr.depth, List.map_map]; rfl) (comparison_sound hsub hbang)

theorem disjunction_sound (hsub : Sound (Spells .expression) (·.depth < n) sub)
    (hbang : Sound (Spells .operand) (·.depth < n) bang) :
    Sound (Spells .disjunction) (·.depth < n + 1) (disjunction sub bang) := by
  rw [disjunction_eq]
  exact chainTree_sound (by simp) recognises_orOp? rfl (fun x ops => .any x (ops.map Prod.snd))
    (fun _ _ _ _ hne hx hrun => .any rfl (by simpa using hne) hx hrun)
    (fun _ _ => by rw [Expr.depth, List.map_map]; rfl) (conjunction_sound hsub hbang)

theorem conditional_sound (hsub : Sound (Spells .expression) (·.depth < n) sub)
    (hbang : Sound (Spells .operand) (·.depth < n) bang) :
    Sound (Spells .expression) (·.depth < n + 1) (conditional sub bang) := by
  intro ts e rest h
  obtain ⟨test, us, htest, h⟩ := bind_eq_ok.1 h
  obtain ⟨used, hused, hspells, hP⟩ := disjunction_sound hsub hbang ts test us htest
  obtain ⟨b, vs, hb, hafter⟩ := bind_eq_ok.1 h
  cases b with
  | false =>
    obtain ⟨hvs, -⟩ := accept_eq_false hb
    obtain ⟨rfl, hrest⟩ := pure_eq_ok.1 hafter
    rw [← hvs, hrest] at hused
    exact ⟨_, hused, .lift (by simp) hspells, hP⟩
  | true =>
    obtain ⟨p, rfl⟩ := accept_eq_true (by decide) hb
    obtain ⟨yes, ws, hyes, h⟩ := bind_eq_ok.1 hafter
    obtain ⟨_, xs, hcolon, h⟩ := bind_eq_ok.1 h
    obtain ⟨no, ys, hno, h⟩ := bind_eq_ok.1 h
    obtain ⟨rfl, rfl⟩ := pure_eq_ok.1 h
    obtain ⟨q, rfl⟩ := separator_eq_ok hcolon
    obtain ⟨usedYes, husedYes, hspellsYes, hPYes⟩ := hsub vs yes _ hyes
    obtain ⟨usedNo, husedNo, hspellsNo, hPNo⟩ := hsub xs no ys hno
    refine ⟨_, hused.append ((husedYes.append (husedNo.cons (by simp))).cons (by simp)),
      .cond hspells hspellsYes hspellsNo, ?_⟩
    simpa only [Expr.depth] using Nat.max_lt.2 ⟨hP, Nat.succ_lt_succ (Nat.max_lt.2 ⟨hPYes, hPNo⟩)⟩

end

/-! ### All levels -/

theorem levels_sound (n : Nat) :
    Sound (Spells .expression) (·.depth < n) (expression n) ∧
      Sound (Spells .operand) (·.depth < n) (operand n) := by
  induction n with
  | zero =>
    have hdeep : ∀ (ts : List Lexeme) (e : Expr) (rest : List Lexeme),
        (tooDeep : Parse Expr) ts ≠ .ok e rest := by
      intro ts e rest h
      obtain ⟨l, us, -, h⟩ := bind_eq_ok.1 h
      exact throw_ne_ok h
    exact ⟨fun ts e rest h => absurd h (hdeep ts e rest),
      fun ts e rest h => absurd h (hdeep ts e rest)⟩
  | succ n ih => exact ⟨conditional_sound ih.1 ih.2, simple_sound ih.1 ih.2⟩

/-- **Soundness of a whole input.**  Whatever is read as a whole input is spelled by the tokens
before the first end of the text, and has at most the given number of levels. -/
theorem input_sound {limit : Nat} {ts rest : List Lexeme} {e : Expr}
    (h : input limit ts = .ok e rest) :
    Spells .expression e (ts.takeWhile fun l => l.token ≠ .eof) ∧ e.nesting ≤ limit := by
  obtain ⟨x, us, hx, h⟩ := bind_eq_ok.1 h
  obtain ⟨l, vs, hl, h⟩ := bind_eq_ok.1 h
  obtain ⟨rfl, rfl⟩ := peek_eq_ok hl
  split at h
  · next heof =>
    obtain ⟨rfl, rfl⟩ := pure_eq_ok.1 h
    obtain ⟨used, hused, hspells, hP⟩ := (levels_sound limit).1 ts x vs hx
    obtain ⟨rfl, hne⟩ := hused
    have hend : vs.takeWhile (fun l => decide (l.token ≠ .eof)) = [] := by
      cases vs with
      | nil => rfl
      | cons l vs =>
        have hl : l.token = .eof := heof
        exact List.takeWhile_cons_of_neg (by simp [hl])
    rw [List.takeWhile_append_of_pos (by simpa using hne), hend, List.append_nil]
    exact ⟨hspells, hP⟩
  · obtain ⟨l, ws, -, h⟩ := bind_eq_ok.1 h
    exact absurd h throw_ne_ok

end Parse

/-! ### Whole inputs -/

namespace Parser

theorem takeWhile_append_eof (ts : List Lexeme) (p : Nat) :
    ((ts ++ [(⟨.eof, p⟩ : Lexeme)]).takeWhile fun l => l.token ≠ .eof) =
      ts.takeWhile fun l => l.token ≠ .eof := by
  induction ts with
  | nil => rfl
  | cons l ts ih =>
    rw [List.cons_append, List.takeWhile_cons, List.takeWhile_cons, ih]

/-- The end that is added to tokens without one changes nothing before it. -/
theorem takeWhile_ofTokens (tokens : List Lexeme) :
    ((ofTokens tokens).rest.takeWhile fun l => l.token ≠ .eof) =
      tokens.takeWhile fun l => l.token ≠ .eof := by
  unfold ofTokens
  split
  · next hnone =>
    rw [List.getLast?_eq_none_iff.1 hnone]
    rfl
  · split
    · rfl
    · exact takeWhile_append_eof tokens _

/-- **Soundness.**  If tokens can be read as a whole input, those before the first end of the text
spell the tree that is read. -/
theorem spells_of_input {tokens : List Lexeme} {e : Expr}
    (h : (ofTokens tokens).input.1 = .ok e) :
    Spells .expression e (tokens.takeWhile fun l => l.token ≠ .eof) := by
  rw [← takeWhile_ofTokens]
  unfold input run at h
  split at h
  · next x rest hx =>
    obtain rfl : x = e := Except.ok.inj h
    exact (Parse.input_sound hx).1
  · exact absurd h (by simp)

theorem spells_of_input_function :
    (ofTokens [⟨.identifier "a", 0⟩, ⟨.arrow, 2⟩, ⟨.bang, 5⟩, ⟨.identifier "b", 6⟩, ⟨.eof, 7⟩,
      ⟨.comma, 8⟩]).input.1 = .ok (.function ["a"] (.not (.path [.name "b"]))) ∧
    Spells .expression (.function ["a"] (.not (.path [.name "b"])))
      [⟨.identifier "a", 0⟩, ⟨.arrow, 2⟩, ⟨.bang, 5⟩, ⟨.identifier "b", 6⟩] :=
  ⟨rfl, @spells_of_input [⟨.identifier "a", 0⟩, ⟨.arrow, 2⟩, ⟨.bang, 5⟩, ⟨.identifier "b", 6⟩,
    ⟨.eof, 7⟩, ⟨.comma, 8⟩] _ rfl⟩

end Parser

end HostExpr
