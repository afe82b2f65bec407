import HostExpr.Proofs.Grammar
import HostExpr.Proofs.Reading
import HostExpr.Proofs.Spelling

/-!
# Whatever the grammar spells is read

Each tree that the grammar allows, whose functions stand last and whose nesting is within the limit,
is read back from every one of its spellings.

* `Rank.endsBefore`: whether a phrase of a rule ends when a given token follows;
* `Parse.Complete`: a reading takes what is spelled as a rule, and leaves what follows it;
* `Parse.levels_complete`: the readings of expressions and operands are complete;
* `Grammatical.exists_spells`: each tree of the grammar has a spelling;
* `Parser.parses_back`: a whole input is read back from each of its spellings.

A reading stops at the right place because of the token that follows: no phrase of a rule goes on
with an operator of a looser rule, and the body of a function, which takes in all operators, is
followed by none.
-/

namespace HostExpr

open Grammar

/-! ### Where phrases end -/

/-- How tight a rule is. -/
def Rank.level : Rank → Nat
  | expression => 0
  | disjunction => 1
  | conjunction => 2
  | comparison => 3
  | sum => 4
  | product => 5
  | operand => 6

theorem Rank.level_tighter {r : Rank} (hr : r ≠ .operand) : r.tighter.level = r.level + 1 := by
  cases r with
  | operand => exact absurd rfl hr
  | _ => rfl

/-- The tightest rule whose phrases can go on with a token. -/
def Token.goesOn? : Token → Option Rank
  | star | slash | percent => some .product
  | plus | minus => some .sum
  | equal | notEqual | less | lessEqual | greater | greaterEqual => some .comparison
  | and => some .conjunction
  | or => some .disjunction
  | question => some .expression
  | dot | openBracket | openParen | arrow => some .operand
  | _ => none

/-- Whether a phrase of a rule ends when the token follows: it goes on with a looser rule, or with
none. -/
def Rank.endsBefore (r : Rank) (t : Token) : Bool :=
  match t.goesOn? with
  | none => true
  | some s => s.level < r.level

namespace Rank

variable {r s : Rank} {t : Token}

theorem endsBefore_of_none (h : t.goesOn? = none) : r.endsBefore t := by
  unfold endsBefore
  rw [h]

theorem endsBefore_of_some (h : t.goesOn? = some s) : r.endsBefore t ↔ s.level < r.level := by
  unfold endsBefore
  rw [h]
  exact decide_eq_true_iff

theorem endsBefore_tighter (h : r.endsBefore t) : r.tighter.endsBefore t := by
  cases ht : t.goesOn? with
  | none => exact endsBefore_of_none ht
  | some s =>
    rw [endsBefore_of_some ht] at h ⊢
    cases r with
    | operand => exact h
    | _ => exact Nat.lt_succ_of_lt h

theorem goesOn?_ne_of_endsBefore (h : r.endsBefore t) : t.goesOn? ≠ some r := by
  intro ht
  rw [endsBefore_of_some ht] at h
  omega

theorem ne_of_endsBefore {u : Token} (h : r.endsBefore t) (hu : r.endsBefore u = false) :
    t ≠ u := by
  rintro rfl
  rw [h] at hu
  exact absurd hu (by simp)

/-- Before an operator of its own, a part of a chain ends. -/
theorem tighter_endsBefore (hr : r ≠ .operand) (h : t.goesOn? = some r) :
    r.tighter.endsBefore t := by
  rw [endsBefore_of_some h, level_tighter hr]
  omega

/-- Nothing ends a whole expression before an operator. -/
theorem expression_endsBefore_of_some (h : t.goesOn? = some s) :
    Rank.expression.endsBefore t = false := by
  rw [← Bool.not_eq_true, endsBefore_of_some h]
  exact Nat.not_lt_zero _

end Rank

namespace Parse

open Stateful

variable {α ω : Type}

/-- The tokens that stand for an operator are those with which the phrases of a rule go on. -/
def Operators (r : Rank) (op? : Token → Option ω) : Prop :=
  ∀ t, (op? t).isSome ↔ t.goesOn? = some r

theorem operators_orOp? : Operators .disjunction orOp? := by
  intro t
  cases t <;> simp [orOp?, Token.goesOn?]

theorem operators_andOp? : Operators .conjunction andOp? := by
  intro t
  cases t <;> simp [andOp?, Token.goesOn?]

theorem operators_compareOp? : Operators .comparison compareOp? := by
  intro t
  cases t <;> simp [compareOp?, Token.goesOn?]

theorem operators_addOp? : Operators .sum addOp? := by
  intro t
  cases t <;> simp [addOp?, Token.goesOn?]

theorem operators_mulOp? : Operators .product mulOp? := by
  intro t
  cases t <;> simp [mulOp?, Token.goesOn?]

theorem Operators.eq_none {r : Rank} {op? : Token → Option ω} (h : Operators r op?) {t : Token}
    (ht : r.endsBefore t) : op? t = none := by
  have hne := Rank.goesOn?_ne_of_endsBefore ht
  rw [← Option.not_isSome_iff_eq_none, h t]
  exact hne

theorem Operators.goesOn? {r : Rank} {op? : Token → Option ω} (h : Operators r op?) {t : Token}
    {op : ω} (ht : op? t = some op) : t.goesOn? = some r := by
  rw [← h t, ht]
  rfl

/-! ### Repetition -/

/-- A step that is repeated from the first tokens on finds the given items and leaves the last
tokens.  Each time that it finds something it reads a token, and it may still read some when it
finds nothing. -/
inductive Repeats (step : Parse (Option α)) : List Lexeme → List α → List Lexeme → Prop
  | stop {ts : List Lexeme} : step ts = .ok none ts → Repeats step ts [] ts
  | stopAfter {l : Lexeme} {ts rest : List Lexeme} :
      step (l :: ts) = .ok none rest → Repeats step (l :: ts) [] rest
  | more {ts us rest : List Lexeme} {x : α} {xs : List α} :
      step ts = .ok (some x) us → us.length < ts.length → Repeats step us xs rest →
      Repeats step ts (x :: xs) rest

theorem Repeats.upTo {step : Parse (Option α)} {ts rest : List Lexeme} {xs : List α}
    (h : Repeats step ts xs rest) :
    ∀ {n : Nat}, ts.length ≤ n → Parse.upTo n step ts = .ok xs rest := by
  induction h with
  | stop hstep =>
    intro n _
    cases n with
    | zero => rfl
    | succ n => exact bind_of_ok hstep
  | stopAfter hstep =>
    intro n hn
    cases n with
    | zero => exact absurd hn (by simp)
    | succ n => exact bind_of_ok hstep
  | more hstep hlt _ ih =>
    intro n hn
    cases n with
    | zero => omega
    | succ n =>
      refine (bind_of_ok hstep).trans ?_
      exact bind_of_ok (ih (by omega))

theorem Repeats.many {step : Parse (Option α)} {ts rest : List Lexeme} {xs : List α}
    (h : Repeats step ts xs rest) : Parse.many step ts = .ok xs rest :=
  h.upTo (Nat.le_refl _)

/-! ### Lists -/

theorem length_lt_cons_append (l : Lexeme) (ts rest : List Lexeme) :
    rest.length < (l :: (ts ++ rest)).length := by
  rw [List.length_cons, List.length_append]
  omega

section

variable {S : α → List Lexeme → Prop} {item : Parse (Option α)} {closing : Token}

/-- A reading of the items of a list that ends with `closing`: it reads each item `x` with the
property `P` that a comma or the end of the list follows, and finds nothing at the end. -/
structure Offers (S : α → List Lexeme → Prop) (P : α → Prop) (closing : Token)
    (item : Parse (Option α)) : Prop where
  found : ∀ {x ts rest}, S x ts → P x → (first rest).token = .comma ∨ (first rest).token = closing →
    item (ts ++ rest) = .ok (some x) rest
  nothing : ∀ {rest}, (first rest).token = closing → item rest = .ok none rest

variable {P : α → Prop}

/-- The items after a comma. -/
theorem afterComma_complete (hitem : Offers S P closing item) (hclosing : closing ≠ .comma)
    {xs : List α} {ts rest : List Lexeme} (h : Listed S xs ts) (hP : ∀ x ∈ xs, P x)
    (hrest : (first rest).token = closing) (p : Nat) :
    Repeats (afterComma item) (⟨.comma, p⟩ :: (ts ++ rest)) xs rest := by
  induction h generalizing p with
  | nil => exact .stopAfter ((afterComma_cons item p _).trans (hitem.nothing hrest))
  | last hx =>
    have hfound := hitem.found hx (hP _ (by simp)) (.inr hrest)
    have hstop := afterComma_of_ne item (hrest ▸ hclosing)
    exact .more ((afterComma_cons item p _).trans hfound) (length_lt_cons_append _ _ _)
      (.stop hstop)
  | @cons x xs ts us q hx _ ih =>
    obtain ⟨hPx, hPxs⟩ := List.forall_mem_cons.1 hP
    have hfound : item (ts ++ ⟨.comma, q⟩ :: (us ++ rest)) =
        .ok (some x) (⟨.comma, q⟩ :: (us ++ rest)) := hitem.found hx hPx (.inl rfl)
    rw [List.append_assoc, List.cons_append]
    exact .more ((afterComma_cons item p _).trans hfound) (length_lt_cons_append _ _ _)
      (ih hPxs q)

theorem listOf_complete (hitem : Offers S P closing item) (hclosing : closing ≠ .comma)
    {xs : List α} {ts : List Lexeme} (h : Listed S xs ts) (hP : ∀ x ∈ xs, P x)
    (rest : List Lexeme) (hrest : (first rest).token = closing) :
    listOf item (ts ++ rest) = .ok xs rest := by
  cases h with
  | nil => exact bind_of_ok (hitem.nothing hrest)
  | last hx =>
    have hstop := afterComma_of_ne item (hrest ▸ hclosing)
    refine (bind_of_ok (hitem.found hx (hP _ (by simp)) (.inr hrest))).trans ?_
    exact bind_of_ok (Repeats.stop hstop).many
  | @cons x xs ts us p hx hxs =>
    obtain ⟨hPx, hPxs⟩ := List.forall_mem_cons.1 hP
    rw [List.append_assoc, List.cons_append]
    refine (bind_of_ok (hitem.found hx hPx (.inl rfl))).trans ?_
    exact bind_of_ok (afterComma_complete hitem hclosing hxs hPxs hrest p).many

end

/-! ### Complete readings -/

/-- Whether nothing of the expression that the tokens before belong to can follow. -/
def nothingFollows (rest : List Lexeme) : Bool :=
  Rank.expression.endsBefore (first rest).token

/-- A reading takes each tree of fewer than `n` levels that is spelled as the rule `r`, if its
functions stand last and a token follows that ends the phrase. -/
def Complete (r : Rank) (n : Nat) (p : Parse Expr) : Prop :=
  ∀ {e ts rest}, Spells r e ts → e.depth < n → e.arrowsLast (nothingFollows rest) →
    r.endsBefore (first rest).token → p (ts ++ rest) = .ok e rest

theorem nothingFollows_of_none {rest : List Lexeme} (h : (first rest).token.goesOn? = none) :
    nothingFollows rest = true :=
  Rank.endsBefore_of_none h

theorem nothingFollows_of_some (rest : List Lexeme) {r : Rank}
    (h : (first rest).token.goesOn? = some r) : nothingFollows rest = false :=
  Rank.expression_endsBefore_of_some h

/-- Before a token that no phrase goes on with, an expression is read to its end. -/
theorem Complete.apply {n : Nat} {sub : Parse Expr} (hsub : Complete .expression n sub) {e : Expr}
    {ts : List Lexeme} (h : Spells .expression e ts) (hdepth : e.depth < n)
    (harrows : e.arrowsLast true) (rest : List Lexeme)
    (hrest : (first rest).token.goesOn? = none) : sub (ts ++ rest) = .ok e rest := by
  refine hsub h hdepth ?_ (Rank.endsBefore_of_none hrest)
  rw [nothingFollows_of_none hrest]
  exact harrows

/-! ### Chains -/

section

variable {r : Rank} {op? : Token → Option ω} {token : ω → Token} {n : Nat} {operand : Parse Expr}

/-- What follows an operand of a chain ends the operand, and allows a function in it only if it is
the last operand. -/
theorem follows_operand (hr : r ≠ .operand) (hop : Operators r op?) (htoken : Recognises op? token)
    {ops : List (ω × Expr)} {ts rest : List Lexeme} (h : Run (Term token (Spells r.tighter)) ops ts)
    (hrest : r.endsBefore (first rest).token) :
    r.tighter.endsBefore (first (ts ++ rest)).token ∧
      nothingFollows (ts ++ rest) = (nothingFollows rest && ops.isEmpty) := by
  cases h with
  | nil => exact ⟨Rank.endsBefore_tighter hrest, (Bool.and_true _).symm⟩
  | cons hx _ =>
    cases hx with
    | @mk op _ p us _ =>
      have hgoes : (token op).goesOn? = some r := hop.goesOn? ((htoken _ _).2 rfl)
      refine ⟨Rank.tighter_endsBefore hr hgoes, ?_⟩
      rw [List.isEmpty_cons, Bool.and_false]
      exact nothingFollows_of_some _ hgoes

/-- The operators and operands after the first operand. -/
theorem terms_complete (hr : r ≠ .operand) (hop : Operators r op?) (htoken : Recognises op? token)
    (hoperand : Complete r.tighter n operand) {ops : List (ω × Expr)} {ts rest : List Lexeme}
    (h : Run (Term token (Spells r.tighter)) ops ts) (hdepth : ∀ t ∈ ops, t.2.depth < n)
    (harrows : lastPasses (ops.map fun t => t.2.arrowsLast) (nothingFollows rest))
    (hrest : r.endsBefore (first rest).token) :
    Repeats (term op? operand) (ts ++ rest) ops rest := by
  induction h with
  | nil => exact .stop (term_of_none operand (hop.eq_none hrest))
  | @cons x xs ts us hx hxs ih =>
    cases hx with
    | @mk op y p vs hy =>
      have ht : op? (token op) = some op := (htoken _ _).2 rfl
      obtain ⟨hyd, hxsd⟩ := List.forall_mem_cons.1 hdepth
      obtain ⟨hya, hxsa⟩ := lastPasses_cons.1 harrows
      obtain ⟨hends, hfollows⟩ := follows_operand hr hop htoken hxs hrest
      rw [List.isEmpty_map, ← hfollows] at hya
      have hne : token op ≠ .eof := by
        intro heq
        exact absurd (hop.goesOn? ht) (by simp [heq, Token.goesOn?])
      have hread : operand (vs ++ (us ++ rest)) = .ok y (us ++ rest) := hoperand hy hyd hya hends
      have hterm : term op? operand (⟨token op, p⟩ :: (vs ++ (us ++ rest))) =
          .ok (some (op, y)) (us ++ rest) := by
        rw [term_of_some operand ht, afterFirst_cons hne]
        exact bind_of_ok hread
      rw [List.append_assoc]
      exact .more hterm (length_lt_cons_append _ _ _) (ih hxsd hxsa)

/-- A chain is read with all its operators. -/
theorem chainTree_complete (hr : r ≠ .operand) (hop : Operators r op?) (htoken : Recognises op? token)
    (hoperand : Complete r.tighter n operand) (node : Expr → List (ω × Expr) → Expr) {x : Expr}
    {ops : List (ω × Expr)} {ts us rest : List Lexeme} (hx : Spells r.tighter x ts)
    (hops : Run (Term token (Spells r.tighter)) ops us) (hdepth : x.depth < n)
    (hdepths : ∀ t ∈ ops, t.2.depth < n)
    (harrows : lastPasses (x.arrowsLast :: ops.map fun t => t.2.arrowsLast) (nothingFollows rest))
    (hrest : r.endsBefore (first rest).token) :
    chainTree node op? operand (ts ++ us ++ rest) = .ok (collapse node (x, ops)) rest := by
  obtain ⟨hxa, hopsa⟩ := lastPasses_cons.1 harrows
  obtain ⟨hends, hfollows⟩ := follows_operand hr hop htoken hops hrest
  rw [List.isEmpty_map, ← hfollows] at hxa
  have hread := hoperand hx hdepth hxa hends
  have hmany := (terms_complete hr hop htoken hoperand hops hdepths hopsa hrest).many
  have hchain : chain op? operand (ts ++ (us ++ rest)) = .ok (x, ops) rest := by
    rw [chain_eq, bind_of_ok hread, bind_of_ok hmany]
    rfl
  rw [List.append_assoc]
  exact bind_of_ok hchain

theorem collapse_of_ne_nil (node : Expr → List (ω × Expr) → Expr) {x : Expr}
    {ops : List (ω × Expr)} (h : ops ≠ []) : collapse node (x, ops) = node x ops := by
  cases ops with
  | nil => exact absurd rfl h
  | cons => rfl

/-- A rule for chains is complete if its phrases are the chains of the tighter rule, as nodes of
their own, and the single phrases of the tighter rule. -/
theorem chainRule_complete (hr : r ≠ .operand) (hop : Operators r op?) (htoken : Recognises op? token)
    {node : Expr → List (ω × Expr) → Expr}
    (hspells : ∀ {e ts}, Spells r e ts → Spells r.tighter e ts ∨
      ∃ x ops us vs, ops ≠ [] ∧ e = node x ops ∧ ts = us ++ vs ∧ Spells r.tighter x us ∧
        Run (Term token (Spells r.tighter)) ops vs)
    (hdepth : ∀ x ops, (node x ops).depth = max x.depth (highest (ops.map fun t => t.2.depth)))
    (harrows : ∀ x ops, (node x ops).arrowsLast =
      lastPasses (x.arrowsLast :: ops.map fun t => t.2.arrowsLast))
    (hoperand : Complete r.tighter (n + 1) operand) :
    Complete r (n + 1) (chainTree node op? operand) := by
  intro e ts rest h hd ha hrest
  rcases hspells h with hx | ⟨x, ops, us, vs, hne, rfl, rfl, hx, hops⟩
  · have hlast : lastPasses [e.arrowsLast] (nothingFollows rest) := lastPasses_singleton.2 ha
    have hread := chainTree_complete hr hop htoken hoperand node hx .nil hd (by simp) hlast hrest
    rw [List.append_nil] at hread
    exact hread
  · rw [hdepth, Nat.lt_succ_iff, Nat.max_le, highest_le, List.forall_mem_map] at hd
    rw [harrows] at ha
    rw [← collapse_of_ne_nil node hne]
    exact chainTree_complete hr hop htoken hoperand node hx hops (Nat.lt_succ_iff.2 hd.1)
      (fun t ht => Nat.lt_succ_iff.2 (hd.2 t ht)) ha hrest

end

/-! ### Heads of functions -/

theorem names_complete {xs : List String} {ts : List Lexeme} (h : Listed Named xs ts) (p : Nat)
    (rest : List Lexeme) :
    names (ts ++ ⟨.closeParen, p⟩ :: rest) = (xs, ⟨.closeParen, p⟩ :: rest) := by
  induction h with
  | nil => rfl
  | last hx =>
    cases hx
    rfl
  | @cons x xs ts us q hx hxs ih =>
    cases hx
    show names (_ :: _ :: (us ++ _ :: rest)) = _
    rw [names, ih]

theorem names_identifier (x : String) (p : Nat) (ts : List Lexeme)
    (h : (first ts).token ≠ .comma) : names (⟨.identifier x, p⟩ :: ts) = ([x], ts) := by
  unfold names
  split
  · next heq =>
    obtain ⟨-, rfl⟩ := List.cons.inj heq
    exact absurd rfl h
  · next heq =>
    obtain ⟨hl, rfl⟩ := List.cons.inj heq
    cases hl
    rfl
  · next hne =>
    exact absurd rfl (hne x p ts)

theorem names_of_ne_identifier {t : Token} (p : Nat) (ts : List Lexeme)
    (h : ∀ x, t ≠ .identifier x) : names (⟨t, p⟩ :: ts) = ([], ⟨t, p⟩ :: ts) := by
  unfold names
  split
  · next heq =>
    obtain ⟨hl, -⟩ := List.cons.inj heq
    cases hl
    exact absurd rfl (h _)
  · next heq =>
    obtain ⟨hl, -⟩ := List.cons.inj heq
    cases hl
    exact absurd rfl (h _)
  · rfl

theorem functionHead?_openParen (p : Nat) (ts : List Lexeme) :
    functionHead? (⟨.openParen, p⟩ :: ts) =
      match names ts with
      | (params, ⟨.closeParen, _⟩ :: ⟨.arrow, _⟩ :: rest) => some (params, rest)
      | _ => none := rfl

theorem functionHead?_complete {params : List String} {ts : List Lexeme} (h : Params params ts)
    (p : Nat) (rest : List Lexeme) :
    functionHead? (ts ++ ⟨.arrow, p⟩ :: rest) = some (params, rest) := by
  cases h with
  | bare => rfl
  | @listed _ ts q r hxs =>
    rw [List.cons_append, List.append_assoc, functionHead?_openParen, List.singleton_append,
      names_complete hxs]

/-- A name with anything but an arrow after it is no head of a function. -/
theorem functionHead?_identifier (x : String) (p : Nat) {ts : List Lexeme}
    (h : (first ts).token ≠ .arrow) : functionHead? (⟨.identifier x, p⟩ :: ts) = none := by
  unfold functionHead?
  split
  · next heq =>
    obtain ⟨hl, -⟩ := List.cons.inj heq
    cases hl
  · next heq =>
    obtain ⟨-, rfl⟩ := List.cons.inj heq
    exact absurd rfl h
  · rfl

theorem functionHead?_of_names {xs : List String} {ts us : List Lexeme}
    (hnames : names ts = (xs, us))
    (h : ∀ q r vs, us ≠ ⟨.closeParen, q⟩ :: ⟨.arrow, r⟩ :: vs) (p : Nat) :
    functionHead? (⟨.openParen, p⟩ :: ts) = none := by
  rw [functionHead?_openParen, hnames]
  split
  · next heq => exact absurd (Prod.mk.inj heq).2 (h _ _ _)
  · rfl

/-- An expression in parentheses is no head of a function, unless it is a single name and an arrow
follows. -/
theorem functionHead?_wrapped {r : Rank} {e : Expr} {ts rest : List Lexeme} (h : Spells r e ts)
    (p q : Nat) (hrest : ∀ x k, ts = [⟨.identifier x, k⟩] → (first rest).token ≠ .arrow) :
    functionHead? (⟨.openParen, p⟩ :: (ts ++ ⟨.closeParen, q⟩ :: rest)) = none := by
  have hafter := h.afterName
  obtain ⟨t, k, us, rfl, hstart⟩ := h.starts
  by_cases hname : ∃ x, t = .identifier x
  · obtain ⟨x, rfl⟩ := hname
    cases us with
    | nil => -- a single name in parentheses, told from parameters by the missing arrow
      refine functionHead?_of_names (names_identifier x k _ (by simp [first])) ?_ p
      intro q r vs heq
      obtain ⟨-, rfl⟩ := List.cons.inj heq
      exact hrest x k rfl rfl
    | cons l us =>
      obtain ⟨hcomma, hclose⟩ := hafter x k l us rfl
      refine functionHead?_of_names (names_identifier x k (l :: _) hcomma) ?_ p
      intro q r vs heq
      obtain ⟨rfl, -⟩ := List.cons.inj heq
      exact hclose rfl
  · refine functionHead?_of_names (names_of_ne_identifier k _ fun x hx => hname ⟨x, hx⟩) ?_ p
    intro q r vs heq
    obtain ⟨hl, -⟩ := List.cons.inj heq
    cases hl
    exact absurd hstart (by decide)

/-! ### Paths -/

section

variable {n : Nat} {sub bang : Parse Expr}

/-- No phrase goes on with what follows an item of a list. -/
theorem goesOn?_of_itemEnds {closing t : Token} (hclosing : closing.goesOn? = none)
    (h : t = .comma ∨ t = closing) : t.goesOn? = none := by
  rcases h with rfl | rfl
  · rfl
  · exact hclosing

/-- Items that are read to their end wherever a list may go on or end, and that are spelled as
expressions, are the items of a list of expressions. -/
theorem offers_expression? {S : Expr → List Lexeme → Prop} {P : Expr → Prop} {closing : Token}
    (hclosing : closing.goesOn? = none) (hstart : startsExpression closing = false)
    (hspells : ∀ {e ts}, S e ts → Spells .expression e ts)
    (hsub : ∀ {e ts}, S e ts → P e → ∀ rest, (first rest).token.goesOn? = none →
      sub (ts ++ rest) = .ok e rest) :
    Offers S P closing (expression? sub) := by
  constructor
  · intro e ts rest h hP hrest
    have hread := hsub h hP rest (goesOn?_of_itemEnds hclosing hrest)
    obtain ⟨t, p, us, rfl, ht⟩ := (hspells h).starts
    refine (bind_of_ok (peek_apply _)).trans ?_
    show (if startsExpression t then some <$> sub else pure none : Parse _) _ = _
    rw [if_pos ht, map_eq_ok]
    exact ⟨e, hread, rfl⟩
  · intro rest hrest
    refine (bind_of_ok (peek_apply _)).trans ?_
    rw [hrest, hstart]
    rfl

theorem expression?_complete (hsub : Complete .expression n sub) (closing : Token)
    (hclosing : closing.goesOn? = none) (hstart : startsExpression closing = false) :
    Offers (Spells .expression) (fun e => e.depth < n ∧ e.arrowsLast true) closing
      (expression? sub) :=
  offers_expression? hclosing hstart id fun h hP => hsub.apply h hP.1 hP.2

/-- The expressions inside a step have fewer than `n` levels, and their functions stand last. -/
def Fits (n : Nat) (s : Segment) : Prop :=
  ∀ e ∈ s.args, e.depth < n ∧ e.arrowsLast true

theorem step_complete (hsub : Complete .expression n sub) {s : Segment} {ts rest : List Lexeme}
    (h : Step (Spells .expression) s ts) (hs : Fits n s)
    (hrest : (first rest).token ≠ .openParen) : step sub (ts ++ rest) = .ok s rest := by
  cases h with
  | @name x p =>
    refine (bind_of_ok (peek_apply _)).trans ?_
    refine (bind_of_ok (advance_cons (by simp) _)).trans ?_
    exact bind_of_ok (accept_of_ne hrest)
  | @call x args p q r ts hargs =>
    have hlist := listOf_complete (expression?_complete hsub .closeParen rfl rfl) (by decide) hargs
      hs (⟨.closeParen, r⟩ :: rest) rfl
    rw [List.cons_append, List.cons_append, List.append_assoc]
    refine (bind_of_ok (peek_apply _)).trans ?_
    refine (bind_of_ok (advance_cons (by simp) _)).trans ?_
    refine (bind_of_ok (accept_of_eq (by decide) q _)).trans ?_
    refine (bind_of_ok hlist).trans ?_
    exact bind_of_ok (close_apply .arguments r rest)

theorem further_complete (hsub : Complete .expression n sub) {s : Segment} {ts rest : List Lexeme}
    (h : Further (Spells .expression) s ts) (hs : Fits n s)
    (hrest : (first rest).token ≠ .openParen) : step? sub (ts ++ rest) = .ok (some s) rest := by
  cases h with
  | @member s p ts hstep =>
    refine (bind_of_ok (accept_of_eq (by decide) p _)).trans ?_
    exact map_eq_ok.2 ⟨s, step_complete hsub hstep hs hrest, rfl⟩
  | @key e p q ts he =>
    obtain ⟨hdepth, harrows⟩ := hs e (by simp [Segment.args])
    have hread := hsub.apply he hdepth harrows (⟨.closeBracket, q⟩ :: rest) rfl
    rw [List.cons_append, List.append_assoc]
    refine (bind_of_ok (accept_of_ne (by simp [first]))).trans ?_
    refine (bind_of_ok (accept_of_eq (by decide) p _)).trans ?_
    refine (bind_of_ok hread).trans ?_
    exact bind_of_ok (close_apply .offset q rest)

theorem step?_of_end {rest : List Lexeme} (hrest : Rank.operand.endsBefore (first rest).token) :
    step? sub rest = .ok none rest := by
  have hdot : (first rest).token ≠ .dot := Rank.ne_of_endsBefore hrest rfl
  have hbracket : (first rest).token ≠ .openBracket := Rank.ne_of_endsBefore hrest rfl
  refine (bind_of_ok (accept_of_ne hdot)).trans ?_
  exact bind_of_ok (accept_of_ne hbracket)

theorem first_of_further {s : List Segment} {ts rest : List Lexeme}
    (h : Run (Further (Spells .expression)) s ts)
    (hrest : Rank.operand.endsBefore (first rest).token) :
    (first (ts ++ rest)).token ≠ .openParen ∧ (first (ts ++ rest)).token ≠ .arrow := by
  cases h with
  | nil =>
    rw [List.nil_append]
    exact ⟨Rank.ne_of_endsBefore hrest rfl, Rank.ne_of_endsBefore hrest rfl⟩
  | cons hx _ =>
    cases hx with
    | member => simp [first]
    | key => simp [first]

theorem run_further_complete (hsub : Complete .expression n sub) {ss : List Segment}
    {ts rest : List Lexeme} (h : Run (Further (Spells .expression)) ss ts) (hs : ∀ s ∈ ss, Fits n s)
    (hrest : Rank.operand.endsBefore (first rest).token) :
    Repeats (step? sub) (ts ++ rest) ss rest := by
  induction h with
  | nil => exact .stop (step?_of_end hrest)
  | @cons s ss ts us hx hxs ih =>
    obtain ⟨hfit, hfits⟩ := List.forall_mem_cons.1 hs
    have hread := further_complete hsub hx hfit (first_of_further hxs hrest).1
    have hlt : (us ++ rest).length < (ts ++ (us ++ rest)).length := by
      cases hx with
      | member => exact length_lt_cons_append _ _ _
      | key => exact length_lt_cons_append _ _ _
    rw [List.append_assoc]
    exact .more hread hlt (ih hfits)

theorem path_complete (hsub : Complete .expression n sub) {s : Segment} {ss : List Segment}
    {ts us rest : List Lexeme} (hhead : Step (Spells .expression) s ts)
    (hrun : Run (Further (Spells .expression)) ss us) (hs : Fits n s) (hss : ∀ s ∈ ss, Fits n s)
    (hrest : Rank.operand.endsBefore (first rest).token) :
    path sub (ts ++ us ++ rest) = .ok (.path (s :: ss)) rest := by
  have hread := step_complete hsub hhead hs (first_of_further hrun hrest).1
  have hmany := (run_further_complete hsub hrun hss hrest).many
  rw [List.append_assoc]
  refine (bind_of_ok hread).trans ?_
  exact bind_of_ok hmany

/-! ### Operands -/

/-- The part of an entry after its key. -/
theorem afterKey_complete (hsub : Complete .expression n sub) {e : Expr} {ts rest : List Lexeme}
    (h : Spells .expression e ts) (hdepth : e.depth < n) (harrows : e.arrowsLast true)
    (hrest : (first rest).token.goesOn? = none) (key : String) (q : Nat) :
    (do separator .property; return some (key, ← sub) : Parse _) (⟨.colon, q⟩ :: (ts ++ rest)) =
      .ok (some (key, e)) rest := by
  have hread := hsub.apply h hdepth harrows rest hrest
  refine (bind_of_ok (separator_apply .property q _)).trans ?_
  exact bind_of_ok hread

theorem property?_complete (hsub : Complete .expression n sub) :
    Offers (Property (Spells .expression)) (fun t => t.2.depth < n ∧ t.2.arrowsLast true)
      .closeBrace (property? sub) := by
  constructor
  · intro t ts rest h hP hrest
    have hends := goesOn?_of_itemEnds rfl hrest
    cases h with
    | @text key e p q ts he =>
      refine (bind_of_ok (peek_apply _)).trans ?_
      refine (bind_of_ok (advance_cons (by simp) _)).trans ?_
      exact afterKey_complete hsub he hP.1 hP.2 hends key q
    | @identifier key e p q ts he =>
      refine (bind_of_ok (peek_apply _)).trans ?_
      refine (bind_of_ok (advance_cons (by simp) _)).trans ?_
      exact afterKey_complete hsub he hP.1 hP.2 hends key q
  · intro rest hrest
    refine (bind_of_ok (peek_apply _)).trans ?_
    rw [hrest]
    rfl

/-- Something between a first token and the closing one. -/
theorem bracketed_complete {p : Parse α} {x : α} {f : α → Expr} {c : Bracketed} {t : Token}
    {us rest : List Lexeme} {j : Nat} (hne : t ≠ .eof)
    (hp : p (us ++ ⟨c.closing, j⟩ :: rest) = .ok x (⟨c.closing, j⟩ :: rest)) (i : Nat) :
    (do advance; let x ← p; close c; return f x : Parse Expr)
      (⟨t, i⟩ :: (us ++ ⟨c.closing, j⟩ :: rest)) = .ok (f x) rest := by
  refine (bind_of_ok (advance_cons hne _)).trans ?_
  refine (bind_of_ok hp).trans ?_
  exact bind_of_ok (close_apply c j rest)

/-- An operand that is no function is read once no function is found in its place. -/
theorem simple_of_plain {ts : List Lexeme} (h : functionHead? ts = none) :
    simple sub bang ts = plainOperand sub bang ts := by
  have hget : (get : Parse (List Lexeme)) ts = .ok ts ts := rfl
  refine (bind_of_ok hget).trans ?_
  rw [h]

/-- A function is read once its head is found. -/
theorem simple_of_head {ts us : List Lexeme} {params : List String}
    (h : functionHead? ts = some (params, us)) :
    simple sub bang ts = (do return .function params (← sub) : Parse Expr) us := by
  have hget : (get : Parse (List Lexeme)) ts = .ok ts ts := rfl
  refine (bind_of_ok hget).trans ?_
  rw [h]
  have hset : (set us : Parse Unit) ts = .ok () us := rfl
  exact bind_of_ok hset

theorem simple_complete (hsub : Complete .expression n sub) (hbang : Complete .operand n bang) :
    Complete .operand (n + 1) (simple sub bang) := by
  intro e ts rest h hdepth harrows hrest
  cases h with
  | lift hne _ => exact absurd rfl hne
  | @function params body ts us p hparams hbody =>
    rw [Expr.depth] at hdepth
    rw [Expr.arrowsLast, Bool.and_eq_true] at harrows
    obtain ⟨hnothing, harrows⟩ := harrows
    have hread : sub (us ++ rest) = .ok body rest :=
      hsub hbody (Nat.lt_of_succ_lt_succ hdepth) (by rw [hnothing]; exact harrows) hnothing
    rw [List.append_assoc, List.cons_append, simple_of_head (functionHead?_complete hparams p _)]
    exact bind_of_ok hread
  | @wrapped inner ts p q hinner =>
    rw [Expr.depth] at hdepth
    rw [Expr.arrowsLast] at harrows
    have hread := hsub.apply hinner (Nat.lt_of_succ_lt_succ hdepth) harrows
      (⟨.closeParen, q⟩ :: rest) rfl
    have harrow : (first rest).token ≠ .arrow := Rank.ne_of_endsBefore hrest rfl
    rw [List.cons_append, List.append_assoc]
    refine (simple_of_plain (functionHead?_wrapped hinner p q fun _ _ _ => harrow)).trans ?_
    refine (bind_of_ok (peek_apply _)).trans ?_
    exact bracketed_complete (by simp) hread p
  | @not operand ts t p hoperand =>
    rw [Expr.depth] at hdepth
    rw [Expr.arrowsLast] at harrows
    have hread := hbang hoperand (Nat.lt_of_succ_lt_succ hdepth) harrows hrest
    rw [List.cons_append, simple_of_plain rfl]
    refine (bind_of_ok (peek_apply _)).trans ?_
    refine (bind_of_ok (advance_cons (by simp) _)).trans ?_
    refine (bind_of_ok (peek_apply _)).trans ?_
    show (if p + 1 = p + 1 then _ else _ : Parse Expr) _ = _
    rw [if_pos rfl]
    exact bind_of_ok hread
  | @list items ts p q hitems =>
    have hP : ∀ e ∈ items, e.depth < n ∧ e.arrowsLast true := fun e he =>
      ⟨Expr.depth_list_lt.1 hdepth e he, Expr.arrowsLast_list.1 harrows e he⟩
    have hlist := listOf_complete (expression?_complete hsub .closeBracket rfl rfl) (by decide)
      hitems hP (⟨.closeBracket, q⟩ :: rest) rfl
    rw [List.cons_append, List.append_assoc, simple_of_plain rfl]
    refine (bind_of_ok (peek_apply _)).trans ?_
    exact bracketed_complete (by simp) hlist p
  | @map entries ts p q hentries =>
    have hP : ∀ t ∈ entries, t.2.depth < n ∧ t.2.arrowsLast true := fun t ht =>
      ⟨Expr.depth_map_lt.1 hdepth t ht, Expr.arrowsLast_map.1 harrows t ht⟩
    have hlist := listOf_complete (property?_complete hsub) (by decide) hentries hP
      (⟨.closeBrace, q⟩ :: rest) rfl
    rw [List.cons_append, List.append_assoc, simple_of_plain rfl]
    refine (bind_of_ok (peek_apply _)).trans ?_
    exact bracketed_complete (by simp) hlist p
  | @boolean b p =>
    rw [List.cons_append, simple_of_plain rfl]
    refine (bind_of_ok (peek_apply _)).trans ?_
    exact bind_of_ok (advance_cons (by simp) _)
  | @number x p =>
    rw [List.cons_append, simple_of_plain rfl]
    refine (bind_of_ok (peek_apply _)).trans ?_
    exact bind_of_ok (advance_cons (by simp) _)
  | @text s p =>
    rw [List.cons_append, simple_of_plain rfl]
    refine (bind_of_ok (peek_apply _)).trans ?_
    exact bind_of_ok (advance_cons (by simp) _)
  | @path head ss ts us hhead hrun =>
    have hP : ∀ s ∈ head :: ss, Fits n s := fun s hs e he =>
      ⟨Expr.depth_path_lt.1 hdepth s hs e he, Expr.arrowsLast_path.1 harrows s hs e he⟩
    obtain ⟨hfit, hfits⟩ := List.forall_mem_cons.1 hP
    have hread := path_complete hsub hhead hrun hfit hfits hrest
    have hfurther := (first_of_further hrun hrest).2
    cases hhead with
    | @name x p =>
      refine (simple_of_plain (functionHead?_identifier x p hfurther)).trans ?_
      exact (bind_of_ok (peek_apply _)).trans hread
    | @call x args p q r ts hargs =>
      refine (simple_of_plain (functionHead?_identifier x p (by simp [first]))).trans ?_
      exact (bind_of_ok (peek_apply _)).trans hread

/-! ### Rules -/

theorem product_complete (hsub : Complete .expression n sub) (hbang : Complete .operand n bang) :
    Complete .product (n + 1) (product sub bang) := by
  rw [product_eq]
  refine chainRule_complete (by simp) operators_mulOp? recognises_mulOp? ?_ (fun _ _ => by rw [Expr.depth])
    (fun _ _ => by rw [Expr.arrowsLast]) (simple_complete hsub hbang)
  intro e ts h
  cases h with
  | lift _ h => exact .inl h
  | product hne hx hops => exact .inr ⟨_, _, _, _, hne, rfl, rfl, hx, hops⟩

theorem sum_complete (hsub : Complete .expression n sub) (hbang : Complete .operand n bang) :
    Complete .sum (n + 1) (sum sub bang) := by
  rw [sum_eq]
  refine chainRule_complete (by simp) operators_addOp? recognises_addOp? ?_ (fun _ _ => by rw [Expr.depth])
    (fun _ _ => by rw [Expr.arrowsLast]) (product_complete hsub hbang)
  intro e ts h
  cases h with
  | lift _ h => exact .inl h
  | sum hne hx hops => exact .inr ⟨_, _, _, _, hne, rfl, rfl, hx, hops⟩

theorem comparison_complete (hsub : Complete .expression n sub) (hbang : Complete .operand n bang) :
    Complete .comparison (n + 1) (comparison sub bang) := by
  intro e ts rest h hdepth harrows hrest
  cases h with
  | lift _ h =>
    have hread := sum_complete hsub hbang h hdepth harrows (Rank.endsBefore_tighter hrest)
    refine (bind_of_ok hread).trans ?_
    refine (bind_of_ok (peek_apply _)).trans ?_
    rw [operators_compareOp?.eq_none hrest]
    rfl
  | @compare op left right p ts us hleft hright =>
    have hop : compareOp? op.token = some op := (recognises_compareOp? _ _).2 rfl
    rw [Expr.depth, Nat.max_lt] at hdepth
    rw [Expr.arrowsLast, lastPasses_cons, lastPasses_cons] at harrows
    obtain ⟨harrowsLeft, harrowsRight, -⟩ := harrows
    have hgoes := operators_compareOp?.goesOn? hop
    have hends : Rank.sum.endsBefore op.token := Rank.tighter_endsBefore (r := .comparison) (by simp) hgoes
    have hnothing : nothingFollows (⟨op.token, p⟩ :: (us ++ rest)) = false :=
      nothingFollows_of_some (⟨op.token, p⟩ :: _) hgoes
    rw [List.isEmpty_cons, Bool.and_false, ← hnothing] at harrowsLeft
    rw [List.isEmpty_nil, Bool.and_true] at harrowsRight
    have hleftRead := sum_complete hsub hbang hleft hdepth.1 harrowsLeft hends
    have hrightRead :=
      sum_complete hsub hbang hright hdepth.2 harrowsRight (Rank.endsBefore_tighter hrest)
    have hne : op.token ≠ .eof := by
      intro heq
      rw [heq] at hop
      exact absurd hop (by simp [compareOp?])
    rw [List.append_assoc, List.cons_append]
    refine (bind_of_ok hleftRead).trans ?_
    refine (bind_of_ok (peek_apply _)).trans ?_
    have hpeeked : compareOp? (first (⟨op.token, p⟩ :: (us ++ rest))).token = some op := hop
    rw [hpeeked]
    refine (bind_of_ok (advance_cons hne _)).trans ?_
    exact bind_of_ok hrightRead

theorem conjunction_complete (hsub : Complete .expression n sub)
    (hbang : Complete .operand n bang) : Complete .conjunction (n + 1) (conjunction sub bang) := by
  rw [conjunction_eq]
  refine chainRule_complete (by simp) operators_andOp? recognises_andOp? ?_
    (fun _ _ => by rw [Expr.depth, List.map_map]; rfl)
    (fun _ _ => by rw [Expr.arrowsLast, List.map_map]; rfl) (comparison_complete hsub hbang)
  intro e ts h
  cases h with
  | lift _ h => exact .inl h
  | all heq hne hx hops =>
    subst heq
    exact .inr ⟨_, _, _, _, by simpa using hne, rfl, rfl, hx, hops⟩

theorem disjunction_complete (hsub : Complete .expression n sub)
    (hbang : Complete .operand n bang) : Complete .disjunction (n + 1) (disjunction sub bang) := by
  rw [disjunction_eq]
  refine chainRule_complete (by simp) operators_orOp? recognises_orOp? ?_
    (fun _ _ => by rw [Expr.depth, List.map_map]; rfl)
    (fun _ _ => by rw [Expr.arrowsLast, List.map_map]; rfl) (conjunction_complete hsub hbang)
  intro e ts h
  cases h with
  | lift _ h => exact .inl h
  | any heq hne hx hops =>
    subst heq
    exact .inr ⟨_, _, _, _, by simpa using hne, rfl, rfl, hx, hops⟩

theorem conditional_complete (hsub : Complete .expression n sub)
    (hbang : Complete .operand n bang) : Complete .expression (n + 1) (conditional sub bang) := by
  intro e ts rest h hdepth harrows hrest
  cases h with
  | lift _ h =>
    have hread := disjunction_complete hsub hbang h hdepth harrows (Rank.endsBefore_tighter hrest)
    have hquestion : (first rest).token ≠ .question := Rank.ne_of_endsBefore hrest rfl
    refine (bind_of_ok hread).trans ?_
    exact bind_of_ok (accept_of_ne hquestion)
  | @cond test yes no ts us vs p q htest hyes hno =>
    rw [Expr.depth, Nat.max_lt, Nat.succ_lt_succ_iff, Nat.max_lt] at hdepth
    rw [Expr.arrowsLast, Bool.and_eq_true, Bool.and_eq_true] at harrows
    obtain ⟨htestDepth, hyesDepth, hnoDepth⟩ := hdepth
    obtain ⟨⟨htestArrows, hyesArrows⟩, hnoArrows⟩ := harrows
    have htestRead : disjunction sub bang
        (ts ++ ⟨.question, p⟩ :: (us ++ ⟨.colon, q⟩ :: (vs ++ rest))) =
          .ok test (⟨.question, p⟩ :: (us ++ ⟨.colon, q⟩ :: (vs ++ rest))) :=
      disjunction_complete hsub hbang htest htestDepth htestArrows rfl
    have hyesRead := hsub.apply hyes hyesDepth hyesArrows (⟨.colon, q⟩ :: (vs ++ rest)) rfl
    have hnoRead : sub (vs ++ rest) = .ok no rest :=
      hsub hno hnoDepth (by rw [show nothingFollows rest = true from hrest]; exact hnoArrows) hrest
    rw [List.append_assoc, List.cons_append, List.append_assoc, List.cons_append]
    refine (bind_of_ok htestRead).trans ?_
    refine (bind_of_ok (accept_of_eq (by decide) p _)).trans ?_
    refine (bind_of_ok hyesRead).trans ?_
    refine (bind_of_ok (separator_apply .conditional q _)).trans ?_
    exact bind_of_ok hnoRead

/-! ### Single operands -/

/-- An operand that the operators of a chain do not follow is the whole chain. -/
theorem chainTree_single {ω : Type} {r : Rank} {op? : Token → Option ω} (hop : Operators r op?)
    {operand : Parse Expr} {e : Expr} {ts rest : List Lexeme} (h : operand ts = .ok e rest)
    (hrest : r.endsBefore (first rest).token) (node : Expr → List (ω × Expr) → Expr) :
    chainTree node op? operand ts = .ok e rest := by
  have hmany := (Repeats.stop (term_of_none operand (hop.eq_none hrest))).many
  have hchain : chain op? operand ts = .ok (e, []) rest := by
    rw [chain_eq, bind_of_ok h, bind_of_ok hmany]
    rfl
  exact bind_of_ok hchain

/-- An operand that no phrase goes on after is a whole expression. -/
theorem conditional_of_simple {e : Expr} {ts rest : List Lexeme}
    (h : simple sub bang ts = .ok e rest) (hrest : (first rest).token.goesOn? = none) :
    conditional sub bang ts = .ok e rest := by
  have hends : ∀ r : Rank, r.endsBefore (first rest).token := fun r => Rank.endsBefore_of_none hrest
  have hproduct : product sub bang ts = .ok e rest := by
    rw [product_eq]
    exact chainTree_single operators_mulOp? h (hends .product) _
  have hsum : sum sub bang ts = .ok e rest := by
    rw [sum_eq]
    exact chainTree_single operators_addOp? hproduct (hends .sum) _
  have hcomparison : comparison sub bang ts = .ok e rest := by
    refine (bind_of_ok hsum).trans ?_
    refine (bind_of_ok (peek_apply _)).trans ?_
    rw [operators_compareOp?.eq_none (hends .comparison)]
    rfl
  have hconjunction : conjunction sub bang ts = .ok e rest := by
    rw [conjunction_eq]
    exact chainTree_single operators_andOp? hcomparison (hends .conjunction) _
  have hdisjunction : disjunction sub bang ts = .ok e rest := by
    rw [disjunction_eq]
    exact chainTree_single operators_orOp? hconjunction (hends .disjunction) _
  have hquestion : (first rest).token ≠ .question := Rank.ne_of_endsBefore (hends .expression) rfl
  refine (bind_of_ok hdisjunction).trans ?_
  exact bind_of_ok (accept_of_ne hquestion)

end

/-! ### All levels -/

theorem levels_complete (n : Nat) :
    Complete .expression n (expression n) ∧ Complete .operand n (operand n) := by
  induction n with
  | zero =>
    exact ⟨fun _ hdepth => absurd hdepth (Nat.not_lt_zero _),
      fun _ hdepth => absurd hdepth (Nat.not_lt_zero _)⟩
  | succ n ih => exact ⟨conditional_complete ih.1 ih.2, simple_complete ih.1 ih.2⟩

/-- **Completeness of a whole input.**  What is spelled before the end of the text is read. -/
theorem input_complete {limit : Nat} {e : Expr} {ts : List Lexeme} (h : Spells .expression e ts)
    (hdepth : e.nesting ≤ limit) (harrows : e.arrowsLast true) (p : Nat) :
    input limit (ts ++ [⟨.eof, p⟩]) = .ok e [⟨.eof, p⟩] := by
  have hread := Complete.apply (levels_complete limit).1 h hdepth harrows [⟨.eof, p⟩] rfl
  exact bind_of_ok hread

end Parse

/-! ### Whole inputs -/

namespace Parser

theorem rest_ofTokens_concat (ts : List Lexeme) (l : Lexeme) :
    (ofTokens (ts ++ [l])).rest =
      if l.token = .eof then ts ++ [l] else ts ++ [l] ++ [⟨.eof, l.position + 1⟩] := by
  unfold ofTokens
  rw [List.getLast?_concat]
  exact apply_ite Parser.rest ..

theorem rest_ofTokens_eof (ts : List Lexeme) (p : Nat) :
    (ofTokens (ts ++ [⟨.eof, p⟩])).rest = ts ++ [⟨.eof, p⟩] := by
  rw [rest_ofTokens_concat, if_pos rfl]

/-- The end of the text is added to tokens that it is not among. -/
theorem rest_ofTokens_of_ne {ts : List Lexeme} (h : ∀ l ∈ ts, l.token ≠ .eof) :
    ∃ p, (ofTokens ts).rest = ts ++ [⟨.eof, p⟩] := by
  obtain rfl | ⟨us, l, rfl⟩ := List.eq_nil_or_concat ts
  · exact ⟨0, rfl⟩
  · rw [List.concat_eq_append] at h ⊢
    have hl := h l (by simp)
    exact ⟨l.position + 1, by rw [rest_ofTokens_concat, if_neg hl]⟩

/-- The tokens of a parser end with the end of the text. -/
theorem exists_ofTokens_eq (tokens : List Lexeme) :
    ∃ us p, (ofTokens tokens).rest = us ++ [⟨.eof, p⟩] := by
  unfold ofTokens
  split
  · exact ⟨[], 0, rfl⟩
  · next last hlast =>
    split
    · next heof =>
      obtain ⟨us, rfl⟩ := List.getLast?_eq_some_iff.1 hlast
      exact ⟨us, last.position, by rw [← heof]⟩
    · exact ⟨tokens, last.position + 1, rfl⟩

/-- What is spelled before the end of the text is the whole input. -/
theorem input_of_spells {e : Expr} {ts : List Lexeme} (h : Spells .expression e ts)
    (harrows : e.arrowsLast true) (hnesting : e.nesting ≤ maxNesting) (p : Nat) :
    (ofTokens (ts ++ [⟨.eof, p⟩])).input.1 = .ok e := by
  unfold input run
  rw [rest_ofTokens_eof, Parse.input_complete h hnesting harrows]

/-- **Completeness.**  A tree of the grammar whose functions stand last and whose nesting is within
the limit has a spelling, and is read back from each of its spellings. -/
theorem parses_back {e : Expr} (h : Grammatical .expression e) (harrows : e.arrowsLast true)
    (hnesting : e.nesting ≤ maxNesting) :
    (∃ ts, Spells .expression e ts) ∧
      ∀ ts p, Spells .expression e ts → (ofTokens (ts ++ [⟨.eof, p⟩])).input.1 = .ok e := by
  refine ⟨exists_tokens (h.exists_spells 0), ?_⟩
  intro ts p hspells
  exact input_of_spells hspells harrows hnesting p

/-- The sum `!a + (x,) => x`. -/
theorem parses_back_sum :
    (ofTokens [⟨.bang, 0⟩, ⟨.identifier "a", 1⟩, ⟨.plus, 3⟩, ⟨.openParen, 5⟩, ⟨.identifier "x", 6⟩,
      ⟨.comma, 7⟩, ⟨.closeParen, 8⟩, ⟨.arrow, 10⟩, ⟨.identifier "x", 13⟩, ⟨.eof, 14⟩]).input.1 =
    .ok (.sum (.not (.path [.name "a"])) [(.add, .function ["x"] (.path [.name "x"]))]) := by
  have hname : ∀ x : String, Grammatical .operand (.path [.name x]) := by
    intro x
    exact .path rfl (by simp [Segment.args])
  have hfunction : Grammatical .operand (.function ["x"] (.path [.name "x"])) :=
    .function (hname "x").expression_of_operand
  have hsum : Grammatical .sum
      (.sum (.not (.path [.name "a"])) [(.add, .function ["x"] (.path [.name "x"]))]) :=
    .sum (by simp) (.lift (by simp) (hname "a").not) (by simpa using .lift (by simp) hfunction)
  have hspells : ∀ (x : String) (p : Nat),
      Spells .operand (.path [.name x]) [⟨.identifier x, p⟩] := by
    intro x p
    exact .path .name .nil
  have hparams : Params ["x"] [⟨.openParen, 5⟩, ⟨.identifier "x", 6⟩, ⟨.comma, 7⟩,
      ⟨.closeParen, 8⟩] := .listed (.cons .mk .nil)
  have hright := Spells.function (p := 10) hparams (hspells "x" 13).expression_of_operand
  have hterm : Run (Term AddOp.token (Spells .product))
      [(.add, .function ["x"] (.path [.name "x"]))] _ :=
    .cons (.mk (p := 3) (.lift (by simp) hright)) .nil
  have hleft := Spells.not (p := 0) (hspells "a" 1)
  have htokens := Spells.sum (by simp) (.lift (by simp) hleft) hterm
  exact (parses_back hsum.expression_of_sum (by decide +kernel) (by decide +kernel)).2 _ 14
    htokens.expression_of_sum

end Parser

end HostExpr
