import HostExpr.Proofs.Lockstep

/-!
# Expressions inside other tokens

An expression that is read up to the end of a text is also read where its tokens stand somewhere else,
as long as the token after them is none with which a phrase goes on.

* `Lexeme.shift`: a token some characters further on;
* `Parse.Move`: tokens at the end of a text, and the same tokens inside another one;
* `Parse.Move.Keeps`: what a reading finds at the end of a text it also finds inside another one;
* `Parse.Move.levels_keep`: expressions and operands are such readings.

A reading that has come to the end of the text may do something else inside of another one, as a list
goes on after a comma.  It is told from a reading that stops there by whether it may be the last one.
-/

namespace HostExpr

/-- A token some characters further on. -/
def Lexeme.shift (offset : Nat) (l : Lexeme) : Lexeme :=
  ⟨l.token, l.position + offset⟩

namespace Parse

open Stateful

variable {α β ω : Type}

/-- Tokens are moved from the end of a text, which is at the offset `finish`, to a place some characters
further on in another text, before tokens that do not go on with a phrase. -/
structure Move where
  finish : Nat
  offset : Nat
  rest : List Lexeme
  stops : (first rest).token.goesOn? = none

namespace Move

variable (m : Move)

/-- Tokens at the end of the text. -/
def source (us : List Lexeme) : List Lexeme :=
  us ++ [⟨.eof, m.finish⟩]

/-- The same tokens in the other text. -/
def target (us : List Lexeme) : List Lexeme :=
  us.map (Lexeme.shift m.offset) ++ m.rest

/-- If the first of two results leaves some of the tokens `us` at the end of the text, the second is the
same result and leaves the same tokens in the other text.  Unless `last` holds, this is said only where
some tokens are left; and a result with the property `uses` leaves fewer of them. -/
def Kept (last : Prop) (uses : α → Prop) (us : List Lexeme)
    (a b : EStateM.Result ParseError (List Lexeme) α) : Prop :=
  ∀ x ts, a = .ok x ts → ∃ vs, ts = m.source vs ∧ vs <:+ us ∧ (uses x → vs.length < us.length) ∧
    ((vs = [] → last) → b = .ok x (m.target vs))

/-- What a reading finds at the end of the text it finds in the other text. -/
def Keeps (last : Prop) (uses : α → Prop) (p : Parse α) : Prop :=
  ∀ us, m.Kept last uses us (p (m.source us)) (p (m.target us))

/-- A reading that takes some tokens, if need be the last ones, finds the same in the other text. -/
abbrev Moves (p : Parse α) : Prop :=
  m.Keeps True (fun _ => True) p

variable {m} {last : Prop} {uses : α → Prop} {uses' : β → Prop} {p q : Parse α} {us : List Lexeme}

/-! ### One reading after another -/

namespace Keeps

theorem pure {x : α} (h : ¬ uses x) : m.Keeps last uses (pure x) := by
  intro us y ts hy
  obtain ⟨rfl, rfl⟩ := pure_eq_ok.1 hy
  exact ⟨us, rfl, List.suffix_refl us, fun hx => absurd hx h, fun _ => rfl⟩

theorem bind {f : α → Parse β} (hp : m.Keeps last uses p) (hf : ∀ x, m.Keeps last uses' (f x)) :
    m.Keeps last uses' (p >>= f) := by
  intro us y ts hy
  obtain ⟨x, ts', hx, hy⟩ := bind_eq_ok.1 hy
  obtain ⟨vs, rfl, hvs, -, hread⟩ := hp us x ts' hx
  obtain ⟨ws, rfl, hws, huses, hread'⟩ := hf x vs y ts hy
  refine ⟨ws, rfl, hws.trans hvs, fun h => Nat.lt_of_lt_of_le (huses h) hvs.length_le, fun h => ?_⟩
  have hlast : vs = [] → last := by
    rintro rfl
    exact h (List.suffix_nil.1 hws)
  exact (bind_of_ok (hread hlast)).trans (hread' h)

/-- After a reading that leaves fewer tokens, fewer tokens are left. -/
theorem bindFirst {f : α → Parse β} {any : β → Prop} (hp : m.Keeps last (fun _ => True) p)
    (hf : ∀ x, m.Keeps last uses' (f x)) : m.Keeps last any (p >>= f) := by
  intro us y ts hy
  obtain ⟨vs, rfl, hvs, -, hread⟩ := hp.bind hf us y ts hy
  obtain ⟨x, ts', hx, hy⟩ := bind_eq_ok.1 hy
  obtain ⟨ws, rfl, -, huses, -⟩ := hp us x ts' hx
  obtain ⟨vs', heq, hvs', -, -⟩ := hf x ws y _ hy
  obtain rfl := List.append_cancel_right heq
  exact ⟨vs, rfl, hvs, fun _ => Nat.lt_of_le_of_lt hvs'.length_le (huses trivial), hread⟩

theorem returning (hp : m.Keeps last uses p) {f : α → β} (hf : ∀ x, uses' (f x) → uses x) :
    m.Keeps last uses' (do return f (← p)) := by
  intro us y ts hy
  obtain ⟨x, ts', hx, hy⟩ := bind_eq_ok.1 hy
  obtain ⟨rfl, rfl⟩ := pure_eq_ok.1 hy
  obtain ⟨vs, rfl, hvs, huses, hread⟩ := hp us x ts' hx
  exact ⟨vs, rfl, hvs, fun h => huses (hf x h), fun h => bind_of_ok (hread h)⟩

theorem map (hp : m.Keeps last uses p) {f : α → β} (hf : ∀ x, uses' (f x) → uses x) :
    m.Keeps last uses' (f <$> p) := by
  intro us y ts hy
  obtain ⟨x, hx, rfl⟩ := map_eq_ok.1 hy
  obtain ⟨vs, rfl, hvs, huses, hread⟩ := hp us x ts hx
  exact ⟨vs, rfl, hvs, fun h => huses (hf x h), fun h => map_eq_ok.2 ⟨x, hread h, rfl⟩⟩

/-- What is found where nothing has to be the last is found in particular elsewhere. -/
theorem weaken {uses' : α → Prop} (hp : m.Keeps True uses p) (h : ∀ x, uses' x → uses x) :
    m.Keeps last uses' p := by
  intro us x ts hx
  obtain ⟨vs, rfl, hvs, huses, hread⟩ := hp us x ts hx
  exact ⟨vs, rfl, hvs, fun hx => huses (h x hx), fun _ => hread fun _ => trivial⟩

end Keeps

/-! ### Single tokens -/

theorem kept_unexpected (expected : Expected)
    (b : EStateM.Result ParseError (List Lexeme) α) :
    m.Kept last uses us (unexpected expected (m.source us)) b := by
  intro x ts hx
  obtain ⟨l, vs, -, hthrow⟩ := bind_eq_ok.1 hx
  exact absurd hthrow throw_ne_ok

/-- What is read after a token. -/
theorem kept_afterToken (hp : m.Keeps last (fun _ => False) p) {l : Lexeme}
    (hl : l.token ≠ .eof) (us : List Lexeme) :
    m.Kept last uses (l :: us) ((do advance; p : Parse α) (m.source (l :: us)))
      ((do advance; p : Parse α) (m.target (l :: us))) := by
  intro x ts hx
  have hsource : (do advance; p : Parse α) (m.source (l :: us)) = p (m.source us) :=
    bind_of_ok (advance_cons hl _)
  have htarget : (do advance; p : Parse α) (m.target (l :: us)) = p (m.target us) :=
    bind_of_ok (advance_cons (l := l.shift m.offset) hl _)
  rw [hsource] at hx
  obtain ⟨vs, rfl, hvs, -, hread⟩ := hp us x ts hx
  rw [htarget]
  exact ⟨vs, rfl, hvs.trans (List.suffix_cons l us), fun _ => Nat.lt_succ_of_le hvs.length_le, hread⟩

namespace Keeps

theorem accept {t : Token} (ht : t ≠ .eof) (h : last → t.goesOn? ≠ none) :
    m.Keeps last (fun _ => False) (accept t) := by
  intro us b ts hb
  cases us with
  | nil =>
    have hsource : Parse.accept t (m.source []) = .ok false (m.source []) := accept_of_ne ht.symm
    obtain ⟨rfl, rfl⟩ := EStateM.Result.ok.inj (hsource.symm.trans hb)
    refine ⟨[], rfl, List.suffix_refl _, False.elim, fun hlast => accept_of_ne ?_⟩
    rintro rfl
    exact h (hlast rfl) m.stops
  | cons l us =>
    obtain ⟨u, pos⟩ := l
    by_cases htoken : u = t
    · subst htoken
      obtain ⟨rfl, rfl⟩ := EStateM.Result.ok.inj ((accept_of_eq ht pos _).symm.trans hb)
      exact ⟨us, rfl, List.suffix_cons _ us, False.elim, fun _ => accept_of_eq ht _ _⟩
    · have hsource : Parse.accept t (m.source (⟨u, pos⟩ :: us)) = .ok false _ := accept_of_ne htoken
      obtain ⟨rfl, rfl⟩ := EStateM.Result.ok.inj (hsource.symm.trans hb)
      exact ⟨_, rfl, List.suffix_refl _, False.elim, fun _ => accept_of_ne htoken⟩

/-- A token that is needed is not the end of the text. -/
theorem of_token {uses : Unit → Prop} {p : Parse Unit} {t : Token} (ht : t ≠ .eof)
    (hneeds : ∀ {ts rest}, p ts = .ok () rest → ∃ pos, ts = ⟨t, pos⟩ :: rest)
    (hreads : ∀ pos ts, p (⟨t, pos⟩ :: ts) = .ok () ts) : m.Keeps last uses p := by
  intro us u ts hu
  obtain ⟨pos, hsource⟩ : ∃ pos, m.source us = ⟨t, pos⟩ :: ts := hneeds hu
  cases us with
  | nil =>
    obtain ⟨hl, -⟩ := List.cons.inj hsource
    exact absurd (congrArg Lexeme.token hl).symm ht
  | cons l us =>
    obtain ⟨rfl, rfl⟩ := List.cons.inj hsource
    exact ⟨us, rfl, List.suffix_cons _ us, fun _ => Nat.lt_succ_self _, fun _ => hreads _ _⟩

theorem separator (c : Separated) {uses : Unit → Prop} : m.Keeps last uses (separator c) :=
  of_token (by simp) separator_eq_ok (separator_apply c)

theorem close (c : Bracketed) {uses : Unit → Prop} : m.Keeps last uses (close c) :=
  of_token (closing_ne_eof c) close_eq_ok (close_apply c)

/-- Something before a closing bracket is not the last that is read. -/
theorem closed (hp : m.Keeps False uses p) (c : Bracketed) (f : α → β) :
    m.Keeps last uses' (do let x ← p; Parse.close c; return f x) := by
  intro us y ts hy
  obtain ⟨x, ts', hx, hy⟩ := bind_eq_ok.1 hy
  obtain ⟨_, ts'', hclose, hy⟩ := bind_eq_ok.1 hy
  obtain ⟨rfl, rfl⟩ := pure_eq_ok.1 hy
  obtain ⟨vs, rfl, hvs, -, hread⟩ := hp us x ts' hx
  have hkept : m.Keeps last (fun _ => True) (Parse.close c) := close c
  obtain ⟨ws, rfl, hws, huses, hread'⟩ := hkept vs _ _ hclose
  have hlt := huses trivial
  have hne : vs ≠ [] := by
    rintro rfl
    exact absurd hlt (Nat.not_lt_zero _)
  refine ⟨ws, rfl, hws.trans hvs, fun _ => Nat.lt_of_lt_of_le hlt hvs.length_le, fun h => ?_⟩
  refine (bind_of_ok (hread fun h => hne h)).trans ?_
  exact bind_of_ok (hread' h)

/-! ### Repetition -/

section

variable {item : Parse (Option α)}

/-- Neither of the two readings runs out of repetitions. -/
theorem upTo (h : m.Keeps last (fun o => o.isSome) item) (n : Nat) :
    ∀ {us xs ts}, us.length < n → upTo n item (m.source us) = .ok xs ts →
      ∃ vs, ts = m.source vs ∧ vs <:+ us ∧ ((vs = [] → last) →
        ∀ n', us.length ≤ n' → Parse.upTo n' item (m.target us) = .ok xs (m.target vs)) := by
  induction n with
  | zero => exact fun hlt => absurd hlt (Nat.not_lt_zero _)
  | succ n ih =>
    intro us xs ts hlt hxs
    obtain ⟨o, ts', ho, hxs⟩ := bind_eq_ok.1 hxs
    obtain ⟨vs, rfl, hvs, huses, hread⟩ := h us o ts' ho
    cases o with
    | none =>
      obtain ⟨rfl, rfl⟩ := pure_eq_ok.1 hxs
      refine ⟨vs, rfl, hvs, fun hlast n' hn' => ?_⟩
      cases n' with
      | zero =>
        obtain rfl := List.eq_nil_of_length_eq_zero (Nat.le_zero.1 hn')
        obtain rfl := List.suffix_nil.1 hvs
        rfl
      | succ n' => exact bind_of_ok (hread hlast)
    | some x =>
      obtain ⟨ys, ts'', hys, hxs⟩ := bind_eq_ok.1 hxs
      obtain ⟨rfl, rfl⟩ := pure_eq_ok.1 hxs
      have hshorter := huses rfl
      obtain ⟨ws, rfl, hws, hread'⟩ := ih (by omega) hys
      refine ⟨ws, rfl, hws.trans hvs, fun hlast n' hn' => ?_⟩
      cases n' with
      | zero => omega
      | succ n' =>
        have hlast' : vs = [] → last := by
          rintro rfl
          exact hlast (List.suffix_nil.1 hws)
        refine (bind_of_ok (hread hlast')).trans ?_
        exact bind_of_ok (hread' hlast n' (by omega))

theorem many (h : m.Keeps last (fun o => o.isSome) item) :
    m.Keeps last (fun _ => False) (many item) := by
  intro us xs ts hxs
  have hlt : us.length < (m.source us).length := by simp [source]
  have hle : us.length ≤ (m.target us).length := by simp [target]
  obtain ⟨vs, rfl, hvs, hread⟩ := h.upTo _ hlt hxs
  exact ⟨vs, rfl, hvs, False.elim, fun hlast => hread hlast _ hle⟩

theorem listOf (h : m.Keeps False (fun o => o.isSome) item) :
    m.Keeps False (fun _ => False) (listOf item) := by
  have hcomma : m.Keeps False (fun o => o.isSome) (afterComma item) := by
    refine (accept (by simp) False.elim).bind fun b => ?_
    cases b with
    | true => exact h
    | false => exact .pure (by simp)
  refine h.bind fun o => ?_
  cases o with
  | none => exact .pure id
  | some x => exact hcomma.many.returning fun _ h => h

end

/-! ### Chains -/

section

variable {r : Rank} {op? : Token → Option ω}

theorem term (hop : Operators r op?) {operand : Parse α}
    (h : m.Keeps last (fun _ => True) operand) :
    m.Keeps last (fun o => o.isSome) (term op? operand) := by
  intro us
  cases us with
  | nil =>
    have hsource : op? (first (m.source [])).token = none :=
      hop.eq_none (Rank.endsBefore_of_none rfl)
    have htarget : op? (first (m.target [])).token = none :=
      hop.eq_none (Rank.endsBefore_of_none m.stops)
    rw [term_of_none operand hsource, term_of_none operand htarget]
    exact pure (by simp) []
  | cons l us =>
    cases ht : op? l.token with
    | none =>
      have hsource : op? (first (m.source (l :: us))).token = none := ht
      have htarget : op? (first (m.target (l :: us))).token = none := ht
      rw [term_of_none operand hsource, term_of_none operand htarget]
      exact pure (by simp) (l :: us)
    | some op =>
      have hsource : op? (first (m.source (l :: us))).token = some op := ht
      have htarget : op? (first (m.target (l :: us))).token = some op := ht
      have hne : l.token ≠ .eof := by
        intro hl
        have hgoes := hop.goesOn? ht
        rw [hl] at hgoes
        exact absurd hgoes (by simp [Token.goesOn?])
      have hread : m.Keeps last (fun _ => False) (do return some (op, ← operand)) :=
        h.returning fun _ => False.elim
      rw [term_of_some operand hsource, term_of_some operand htarget]
      exact kept_afterToken hread hne us

theorem chainTree (hop : Operators r op?) {operand : Parse Expr}
    (h : m.Moves operand) (node : Expr → List (ω × Expr) → Expr) :
    m.Moves (chainTree node op? operand) := by
  have hterms : ∀ x : Expr,
      m.Keeps True (fun _ => False) (do return (x, ← Parse.many (Parse.term op? operand))) :=
    fun x => (h.term hop).many.returning fun _ h => h
  have hchain : m.Moves (chain op? operand) := h.bindFirst hterms
  exact hchain.returning fun _ h => h

end

end Keeps

/-! ### Heads of functions -/

theorem names_append {us : List Lexeme} (h : ∃ l ∈ us, l.token = .closeParen) (rest : List Lexeme) :
    (names us).2 ≠ [] ∧ names (us ++ rest) = ((names us).1, (names us).2 ++ rest) := by
  obtain ⟨l, hl, hclose⟩ := h
  fun_induction names us with
  | case1 name p q after more left hnames ih =>
    have hafter : l ∈ after := by
      rcases List.mem_cons.1 hl with rfl | hl
      · exact absurd hclose (by simp)
      · rcases List.mem_cons.1 hl with rfl | hl
        · exact absurd hclose (by simp)
        · exact hl
    obtain ⟨hne, happend⟩ := ih hafter
    rw [hnames] at hne happend
    refine ⟨hne, ?_⟩
    rw [List.cons_append, List.cons_append, names, happend]
  | case2 name p after hcomma =>
    have hafter : l ∈ after := by
      rcases List.mem_cons.1 hl with rfl | hl
      · exact absurd hclose (by simp)
      · exact hl
    obtain ⟨⟨t, q⟩, vs, rfl⟩ := List.exists_cons_of_ne_nil (List.ne_nil_of_mem hafter)
    refine ⟨by simp, names_identifier name p (⟨t, q⟩ :: vs ++ rest) fun hfirst => ?_⟩
    obtain rfl : t = .comma := hfirst
    exact hcomma q vs rfl
  | case3 us hcomma hname =>
    obtain ⟨⟨t, p⟩, vs, rfl⟩ := List.exists_cons_of_ne_nil (List.ne_nil_of_mem hl)
    refine ⟨by simp, names_of_ne_identifier p (vs ++ rest) fun x hx => ?_⟩
    subst hx
    exact hname x p vs rfl

theorem names_suffix (us : List Lexeme) : (names us).2 <:+ us := by
  obtain ⟨used, ⟨hused, -⟩, -⟩ := names_sound us
  exact ⟨used, hused.symm⟩

theorem names_shift (offset : Nat) (us : List Lexeme) :
    names (us.map (Lexeme.shift offset)) =
      ((names us).1, (names us).2.map (Lexeme.shift offset)) := by
  fun_induction names us with
  | case1 name p q after more left hnames ih =>
    rw [hnames] at ih
    show names (⟨.identifier name, _⟩ :: ⟨.comma, _⟩ :: after.map (Lexeme.shift offset)) = _
    rw [names, ih]
  | case2 name p after hcomma =>
    refine names_identifier name _ (after.map (Lexeme.shift offset)) ?_
    cases after with
    | nil => simp [first]
    | cons l vs =>
      obtain ⟨t, q⟩ := l
      intro hfirst
      obtain rfl : t = .comma := hfirst
      exact hcomma q vs rfl
  | case3 us hcomma hname =>
    cases us with
    | nil => rfl
    | cons l vs =>
      obtain ⟨t, p⟩ := l
      refine names_of_ne_identifier _ (vs.map (Lexeme.shift offset)) fun x hx => ?_
      obtain rfl : t = .identifier x := hx
      exact hname x p vs rfl

theorem rest_ne_arrow (m : Move) : (first m.rest).token ≠ .arrow :=
  Rank.ne_of_endsBefore (r := .operand) (Rank.endsBefore_of_none m.stops) rfl

/-- What stands after the names at the front of some tokens starts with the same token in both texts. -/
theorem afterArrow?_move {us : List Lexeme} (h : us ≠ []) :
    (afterArrow? (m.source us) = none ∧ afterArrow? (m.target us) = none) ∨
      ∃ vs, afterArrow? (m.source us) = some (m.source vs) ∧
        afterArrow? (m.target us) = some (m.target vs) ∧ vs <:+ us := by
  match us, h with
  | [l], _ =>
    left
    show afterArrow? (l :: _) = none ∧ afterArrow? (l.shift m.offset :: m.rest) = none
    rw [afterArrow?_cons, afterArrow?_cons, if_neg fun h => absurd h.2 (by simp [first]),
      if_neg fun h => m.rest_ne_arrow h.2]
    exact ⟨rfl, rfl⟩
  | l :: l' :: vs, _ =>
    have hsource : afterArrow? (m.source (l :: l' :: vs)) =
        if l.token = .closeParen ∧ l'.token = .arrow then some _ else none := afterArrow?_cons ..
    have htarget : afterArrow? (m.target (l :: l' :: vs)) =
        if l.token = .closeParen ∧ l'.token = .arrow then some _ else none := afterArrow?_cons ..
    by_cases hfound : l.token = .closeParen ∧ l'.token = .arrow
    · have hne : l'.token ≠ .eof := hfound.2 ▸ by simp
      rw [hsource, htarget, if_pos hfound, if_pos hfound]
      refine .inr ⟨vs, congrArg some (afterFirst_cons hne _), ?_, List.suffix_append [l, l'] vs⟩
      exact congrArg some (afterFirst_cons (l := l'.shift m.offset) hne _)
    · rw [hsource, htarget, if_neg hfound, if_neg hfound]
      exact .inl ⟨rfl, rfl⟩

/-- A head of a function that stands before the end of a text is found in both texts, if a parenthesis
at its front is closed before the end. -/
theorem functionHead?_move {l : Lexeme} {us : List Lexeme}
    (hclose : l.token = .openParen → ∃ l ∈ us, l.token = .closeParen) :
    (functionHead? (m.source (l :: us)) = none ∧ functionHead? (m.target (l :: us)) = none) ∨
      ∃ params vs, functionHead? (m.source (l :: us)) = some (params, m.source vs) ∧
        functionHead? (m.target (l :: us)) = some (params, m.target vs) ∧ vs <:+ us := by
  obtain ⟨t, p⟩ := l
  cases t with
  | openParen =>
    have hshift : ∃ l ∈ us.map (Lexeme.shift m.offset), l.token = .closeParen := by
      obtain ⟨l, hl, htoken⟩ := hclose rfl
      exact ⟨_, List.mem_map_of_mem hl, htoken⟩
    obtain ⟨hne, happend⟩ := names_append (hclose rfl) [⟨.eof, m.finish⟩]
    obtain ⟨-, happend'⟩ := names_append hshift m.rest
    rw [names_shift] at happend'
    have hsource : names (m.source us) = ((names us).1, m.source (names us).2) := happend
    have htarget : names (m.target us) = ((names us).1, m.target (names us).2) := happend'
    have hread := functionHead?_listed p (m.source us)
    have hread' := functionHead?_listed (p + m.offset) (m.target us)
    rw [hsource] at hread
    rw [htarget] at hread'
    obtain ⟨hnone, hnone'⟩ | ⟨vs, hsome, hsome', hvs⟩ := afterArrow?_move hne
    · rw [hnone] at hread
      rw [hnone'] at hread'
      exact .inl ⟨hread, hread'⟩
    · rw [hsome] at hread
      rw [hsome'] at hread'
      exact .inr ⟨_, vs, hread, hread', hvs.trans (names_suffix us)⟩
  | identifier x =>
    cases us with
    | nil => exact .inl ⟨rfl, functionHead?_identifier x _ m.rest_ne_arrow⟩
    | cons l us =>
      obtain ⟨t, q⟩ := l
      by_cases harrow : t = .arrow
      · subst harrow
        exact .inr ⟨[x], us, rfl, rfl, List.suffix_cons _ us⟩
      · exact .inl ⟨functionHead?_identifier x _ harrow, functionHead?_identifier x _ harrow⟩
  | _ => exact .inl ⟨rfl, rfl⟩

/-! ### Rules -/

section

variable {sub bang : Parse Expr} (hsub : m.Moves sub) (hbang : m.Moves bang)

include hsub

theorem expression?_keeps : m.Keeps False (fun o => o.isSome) (expression? sub) := by
  intro us
  cases us with
  | nil =>
    rintro o ts ho
    obtain ⟨rfl, rfl⟩ := EStateM.Result.ok.inj ho
    exact ⟨[], rfl, List.suffix_refl _, by simp, fun h => absurd rfl h⟩
  | cons l us =>
    have hsome : m.Keeps False (fun o => o.isSome) (some <$> sub) :=
      (hsub.weaken fun _ h => h).map fun _ _ => trivial
    show m.Kept False _ (l :: us)
      ((if startsExpression l.token then some <$> sub else Pure.pure none : Parse _) _)
      ((if startsExpression l.token then some <$> sub else Pure.pure none : Parse _) _)
    split
    · exact hsome (l :: us)
    · exact Keeps.pure (by simp) (l :: us)

theorem step_keeps : m.Moves (step sub) := by
  have hafter : ∀ x, m.Keeps True (fun _ => False) (do
      if ← accept .openParen then
        let args ← listOf (expression? sub)
        close .arguments
        return Segment.call x args
      else
        return Segment.name x) := by
    intro x
    refine (Keeps.accept (by simp) fun _ => by simp [Token.goesOn?]).bind fun b => ?_
    cases b with
    | true => exact (expression?_keeps hsub).listOf.closed .arguments (Segment.call x)
    | false => exact .pure id
  intro us
  cases us with
  | nil => exact kept_unexpected .identifierAfterDot _
  | cons l us =>
    obtain ⟨t, pos⟩ := l
    cases t with
    | identifier x => exact kept_afterToken (hafter x) (by simp) us
    | _ => exact kept_unexpected .identifierAfterDot _

theorem step?_keeps : m.Keeps True (fun o => o.isSome) (step? sub) := by
  refine (Keeps.accept (by simp) fun _ => by simp [Token.goesOn?]).bind fun b => ?_
  cases b with
  | true => exact (step_keeps hsub).map fun _ _ => trivial
  | false =>
    refine (Keeps.accept (by simp) fun _ => by simp [Token.goesOn?]).bind fun b => ?_
    cases b with
    | true => exact (hsub.weaken fun _ h => h).closed .offset fun offset => some (Segment.key offset)
    | false => exact .pure (by simp)

theorem path_keeps : m.Moves (path sub) := by
  have hfurther : ∀ s, m.Keeps True (fun _ => False) (do return Expr.path (s :: (← many (step? sub)))) :=
    fun s => (step?_keeps hsub).many.returning fun _ h => h
  exact (step_keeps hsub).bindFirst hfurther

theorem property?_keeps : m.Keeps False (fun o => o.isSome) (property? sub) := by
  have hentry : ∀ key : String, m.Keeps False (fun _ => False)
      (do separator .property; return some (key, ← sub)) := by
    intro key
    have hvalue : m.Keeps False (fun _ => False) (do return some (key, ← sub)) :=
      (hsub.weaken fun _ h => h).returning fun _ => False.elim
    exact (Keeps.separator .property).bindFirst fun _ => hvalue
  intro us
  cases us with
  | nil =>
    rintro o ts ho
    obtain ⟨rfl, rfl⟩ := EStateM.Result.ok.inj ho
    exact ⟨[], rfl, List.suffix_refl _, by simp, fun h => absurd rfl h⟩
  | cons l us =>
    obtain ⟨t, pos⟩ := l
    cases t with
    | text key => exact kept_afterToken (hentry key) (by simp) us
    | identifier key => exact kept_afterToken (hentry key) (by simp) us
    | _ => exact Keeps.pure (by simp) _

/-- Where an operand is read, a parenthesis at its front is closed. -/
theorem exists_closeParen {e : Expr} {p : Nat}
    {us ts : List Lexeme} (h : simple sub bang (m.source (⟨.openParen, p⟩ :: us)) = .ok e ts) :
    ∃ l ∈ us, l.token = .closeParen := by
  have hinside : ∀ l ∈ m.source us, l.token = .closeParen → l ∈ us := by
    intro l hl hclose
    rcases List.mem_append.1 hl with hl | hl
    · exact hl
    · obtain rfl := List.mem_singleton.1 hl
      exact absurd hclose (by simp)
  cases hhead : functionHead? (m.source (⟨.openParen, p⟩ :: us)) with
  | some head =>
    obtain ⟨params, rest⟩ := head
    obtain ⟨used, q, ⟨hused, -⟩, hparams⟩ := functionHead?_sound hhead
    cases hparams with
    | bare =>
      obtain ⟨hl, -⟩ := List.cons.inj hused
      exact absurd (congrArg Lexeme.token hl) (by simp)
    | @listed _ vs _ r _ =>
      have hsource : m.source us = vs ++ [⟨.closeParen, r⟩] ++ [⟨.arrow, q⟩] ++ rest :=
        (List.cons.inj hused).2
      have hmem : (⟨.closeParen, r⟩ : Lexeme) ∈ m.source us := by simp [hsource]
      exact ⟨_, hinside _ hmem rfl, rfl⟩
  | none =>
    rw [simple_of_plain hhead] at h
    obtain ⟨l, ts', hl, h⟩ := bind_eq_ok.1 h
    obtain ⟨rfl, rfl⟩ := peek_eq_ok hl
    obtain ⟨_, ts', hadvance, h⟩ := bind_eq_ok.1 h
    obtain rfl := advance_eq_ok hadvance
    obtain ⟨inner, ts', hinner, h⟩ := bind_eq_ok.1 h
    obtain ⟨_, ts'', hclosed, -⟩ := bind_eq_ok.1 h
    obtain ⟨q, rfl⟩ := close_eq_ok hclosed
    obtain ⟨vs, heq, hvs, -, -⟩ := hsub us inner _ hinner
    have hmem : (⟨.closeParen, q⟩ : Lexeme) ∈ m.source us := by
      obtain ⟨more, rfl⟩ := hvs
      have hmem : (⟨.closeParen, q⟩ : Lexeme) ∈ m.source vs := by
        rw [← heq]
        exact List.mem_cons_self
      rcases List.mem_append.1 hmem with hvs | hend
      · exact List.mem_append_left _ (List.mem_append_right _ hvs)
      · exact List.mem_append_right _ hend
    exact ⟨_, hinside _ hmem rfl, rfl⟩

include hbang

theorem plainOperand_keeps : m.Moves (plainOperand sub bang) := by
  have hliteral : ∀ (e : Expr) (l : Lexeme) (us : List Lexeme), l.token ≠ .eof →
      m.Kept True (fun _ => True) (l :: us) ((do advance; return e : Parse Expr) (m.source (l :: us)))
        ((do advance; return e : Parse Expr) (m.target (l :: us))) := by
    intro e l us hl
    have hpure : m.Keeps True (fun _ => False) (Pure.pure e) := .pure id
    exact kept_afterToken hpure hl us
  have hinside : m.Keeps False (fun _ => True) sub := hsub.weaken fun _ h => h
  intro us
  cases us with
  | nil => exact kept_unexpected .expression _
  | cons l us =>
    obtain ⟨t, pos⟩ := l
    cases t with
    | openParen => exact kept_afterToken (hinside.closed .wrapped Expr.wrapped) (by simp) us
    | bang =>
      have hnot : m.Keeps True (fun _ => False) (do return Expr.not (← bang)) :=
        hbang.returning fun _ => False.elim
      have hafter : ∀ p ts, plainOperand sub bang (⟨.bang, p⟩ :: ts) =
          (if (first ts).position = p + 1 then (do return Expr.not (← bang))
            else throw (.detachedNot p) : Parse Expr) ts := fun p ts => rfl
      cases us with
      | nil => -- a `!` before the end has no operand
        intro e ts he
        have heq : plainOperand sub bang (m.source [⟨.bang, pos⟩]) = _ := hafter _ _
        rw [heq] at he
        split at he
        · obtain ⟨operand, ts', hoperand, -⟩ := bind_eq_ok.1 he
          obtain ⟨vs, -, -, huses, -⟩ := hbang [] operand ts' hoperand
          exact absurd (huses trivial) (Nat.not_lt_zero _)
        · exact absurd he throw_ne_ok
      | cons l us =>
        have hsource : plainOperand sub bang (m.source (⟨.bang, pos⟩ :: l :: us)) =
            (if l.position = pos + 1 then _ else _ : Parse Expr) _ := hafter pos _
        have htarget : plainOperand sub bang (m.target (⟨.bang, pos⟩ :: l :: us)) =
            (if l.position + m.offset = pos + m.offset + 1 then _ else _ : Parse Expr) _ :=
          hafter (pos + m.offset) _
        intro e ts he
        rw [hsource] at he
        rw [htarget]
        split at he
        · next hposition =>
          rw [if_pos (by omega)]
          obtain ⟨vs, rfl, hvs, -, hread⟩ := hnot (l :: us) e ts he
          exact ⟨vs, rfl, hvs.trans (List.suffix_cons _ _),
            fun _ => Nat.lt_succ_of_le hvs.length_le, hread⟩
        · exact absurd he throw_ne_ok
    | openBracket =>
      exact kept_afterToken ((expression?_keeps hsub).listOf.closed .list Expr.list) (by simp) us
    | openBrace =>
      exact kept_afterToken ((property?_keeps hsub).listOf.closed .map Expr.map) (by simp) us
    | boolean b => exact hliteral (.boolean b) _ us (by simp)
    | number x => exact hliteral (.number x) _ us (by simp)
    | text s => exact hliteral (.text s) _ us (by simp)
    | identifier x => exact path_keeps hsub (⟨.identifier x, pos⟩ :: us)
    | _ => exact kept_unexpected .expression _

theorem simple_keeps : m.Moves (simple sub bang) := by
  intro us e ts h
  cases us with
  | nil =>
    have hkept : m.Kept True (fun _ => True) [] (simple sub bang (m.source []))
        (simple sub bang (m.target [])) := kept_unexpected .expression _
    exact hkept e ts h
  | cons l us =>
    have hclose : l.token = .openParen → ∃ l ∈ us, l.token = .closeParen := by
      intro hopen
      obtain ⟨t, p⟩ := l
      obtain rfl : t = .openParen := hopen
      exact exists_closeParen hsub h
    obtain ⟨hsource, htarget⟩ | ⟨params, vs, hsource, htarget, hvs⟩ := functionHead?_move hclose
    · rw [simple_of_plain hsource] at h
      rw [simple_of_plain htarget]
      exact plainOperand_keeps hsub hbang (l :: us) e ts h
    · rw [simple_of_head hsource] at h
      rw [simple_of_head htarget]
      have hbody : m.Keeps True (fun _ => False) (do return Expr.function params (← sub)) :=
        hsub.returning fun _ => False.elim
      obtain ⟨ws, rfl, hws, -, hread⟩ := hbody vs e ts h
      have hsuffix := hws.trans hvs
      exact ⟨ws, rfl, hsuffix.trans (List.suffix_cons l us),
        fun _ => Nat.lt_succ_of_le hsuffix.length_le, hread⟩

theorem product_keeps : m.Moves (product sub bang) := by
  rw [product_eq]
  exact (simple_keeps hsub hbang).chainTree operators_mulOp? .product

theorem sum_keeps : m.Moves (sum sub bang) := by
  rw [sum_eq]
  exact (product_keeps hsub hbang).chainTree operators_addOp? .sum

theorem comparison_keeps : m.Moves (comparison sub bang) := by
  have hsum := sum_keeps hsub hbang
  have hafter : ∀ left, m.Keeps True (fun _ => False) (compared sub bang left) := by
    intro left us
    cases us with
    | nil =>
      have htarget : compareOp? (first (m.target [])).token = none :=
        operators_compareOp?.eq_none (Rank.endsBefore_of_none m.stops)
      rintro e ts he
      obtain ⟨rfl, rfl⟩ := EStateM.Result.ok.inj he
      exact ⟨[], rfl, List.suffix_refl _, False.elim, fun _ => compared_of_none _ _ _ htarget⟩
    | cons l us =>
      cases hop : compareOp? l.token with
      | none =>
        have hsource : compareOp? (first (m.source (l :: us))).token = none := hop
        have htarget : compareOp? (first (m.target (l :: us))).token = none := hop
        rw [compared_of_none _ _ _ hsource, compared_of_none _ _ _ htarget]
        exact Keeps.pure id (l :: us)
      | some op =>
        have hne : l.token ≠ .eof := by
          intro hl
          rw [hl] at hop
          exact absurd hop (by simp [compareOp?])
        have hright : m.Keeps True (fun _ => False) (do return Expr.compare op left (← sum sub bang)) :=
          hsum.returning fun _ => False.elim
        have hsource : compareOp? (first (m.source (l :: us))).token = some op := hop
        have htarget : compareOp? (first (m.target (l :: us))).token = some op := hop
        rw [compared_of_some _ _ _ hsource, compared_of_some _ _ _ htarget]
        exact kept_afterToken hright hne us
  rw [comparison_eq]
  exact hsum.bindFirst hafter

theorem conjunction_keeps : m.Moves (conjunction sub bang) := by
  rw [conjunction_eq]
  exact (comparison_keeps hsub hbang).chainTree operators_andOp? _

theorem disjunction_keeps : m.Moves (disjunction sub bang) := by
  rw [disjunction_eq]
  exact (conjunction_keeps hsub hbang).chainTree operators_orOp? _

theorem conditional_keeps : m.Moves (conditional sub bang) := by
  have hbranches : ∀ test, m.Keeps True (fun _ => False) (do
      if ← accept .question then
        let yes ← sub
        separator .conditional
        return Expr.cond test yes (← sub)
      else
        return test) := by
    intro test
    refine (Keeps.accept (by simp) fun _ => by simp [Token.goesOn?]).bind fun b => ?_
    cases b with
    | false => exact .pure id
    | true =>
      refine hsub.bind fun yes => ?_
      have hno : m.Keeps True (fun _ => False) (do return Expr.cond test yes (← sub)) :=
        hsub.returning fun _ => False.elim
      exact (Keeps.separator .conditional).bindFirst fun _ => hno
  exact (disjunction_keeps hsub hbang).bindFirst hbranches

end

/-! ### All levels -/

theorem levels_keep (n : Nat) :
    m.Moves (expression n) ∧ m.Moves (operand n) := by
  induction n with
  | zero =>
    have hdeep : m.Moves (tooDeep : Parse Expr) := by
      intro us e ts h
      obtain ⟨l, vs, -, hthrow⟩ := bind_eq_ok.1 h
      exact absurd hthrow throw_ne_ok
    exact ⟨hdeep, hdeep⟩
  | succ n ih => exact ⟨conditional_keeps ih.1 ih.2, simple_keeps ih.1 ih.2⟩

end Move

end Parse

end HostExpr
