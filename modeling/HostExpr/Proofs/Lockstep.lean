import HostExpr.Proofs.Completeness
import HostExpr.Proofs.Soundness

/-!
# Two readings side by side

The rules of the parser over two ways to read what is nested, on tokens that correspond to each
other: if what is nested is read alike, so is the whole.

* `ParseError.relocate`: an error at another token;
* `Parse.Pairing`: which tokens and which errors correspond, and the errors with which the first of two
  readings may give up;
* `Parse.Pairing.Agree`: two readings do the same on corresponding tokens, or the first gives up on
  something that does not have a given property;
* `Parse.Pairing.Agree.bind`, `Parse.Pairing.Agree.many`: readings one after another;
* `Parse.Pairing.conditional_agree`, `Parse.Pairing.simple_agree`: expressions and operands.

The tokens are paired at a number of levels, which goes down by one where a token is read.  What is
nested is read after such a token, so it has to agree one level further down only.
-/

namespace HostExpr

/-- The same error, reported at the given token. -/
def ParseError.relocate : ParseError → Lexeme → ParseError
  | unexpected expected _, l => unexpected expected l
  | missingClosing construct _, l => missingClosing construct l
  | missingSeparator construct _, l => missingSeparator construct l
  | detachedNot _, l => detachedNot l.position
  | tooDeep _, l => tooDeep l.position

namespace Parse

open Stateful

variable {α β ω : Type}

/-! ### Heads of functions -/

/-- The tokens after a closing parenthesis and an arrow, if these stand at the front. -/
def afterArrow? (ts : List Lexeme) : Option (List Lexeme) :=
  if (first ts).token = .closeParen ∧ (first (afterFirst ts)).token = .arrow then
    some (afterFirst (afterFirst ts))
  else none

theorem afterArrow?_cons (l : Lexeme) (ts : List Lexeme) :
    afterArrow? (l :: ts) =
      if l.token = .closeParen ∧ (first ts).token = .arrow then some (afterFirst ts) else none := by
  unfold afterArrow?
  by_cases hclose : l.token = .closeParen
  · rw [afterFirst_cons (hclose ▸ by simp)]
    rfl
  · rw [if_neg fun h => hclose h.1, if_neg fun h => hclose h.1]

theorem functionHead?_listed (p : Nat) (ts : List Lexeme) :
    functionHead? (⟨.openParen, p⟩ :: ts) = (afterArrow? (names ts).2).map ((names ts).1, ·) := by
  rw [functionHead?_openParen]
  unfold afterArrow?
  split
  · next heq =>
    rw [heq]
    rfl
  · next hne =>
    rw [if_neg]
    · rfl
    · rintro ⟨hclose, harrow⟩
      have hafter := eq_cons_of_first hclose (by simp)
      rw [eq_cons_of_first harrow (by simp)] at hafter
      exact hne _ _ _ _ (Prod.ext rfl hafter)

theorem functionHead?_of_ne {ts : List Lexeme} (hopen : (first ts).token ≠ .openParen)
    (hname : ∀ x, (first ts).token ≠ .identifier x) : functionHead? ts = none := by
  unfold functionHead?
  split
  · exact absurd rfl hopen
  · next x _ _ _ => exact absurd rfl (hname x)
  · rfl

/-! ### What corresponds -/

/-- An error that is reported at the next token. -/
inductive Complaint : (Lexeme → ParseError) → Prop
  | unexpected {expected : Expected} : Complaint (.unexpected expected)
  | missingClosing {construct : Bracketed} : Complaint (.missingClosing construct)
  | missingSeparator {construct : Separated} : Complaint (.missingSeparator construct)
  | detachedNot : Complaint fun l => .detachedNot l.position

theorem Complaint.relocate {f : Lexeme → ParseError} (h : Complaint f) (l m : Lexeme) :
    (f l).relocate m = f m := by
  cases h <;> rfl

/-- What two readings have in common: which tokens and which errors correspond, and with which errors
the first of them may give up. -/
structure Pairing where
  Paired : Nat → List Lexeme → List Lexeme → Prop
  Fails : ParseError → ParseError → Prop
  GivesUp : ParseError → Prop
  mono : ∀ {k ts us}, Paired k ts us → Paired (k + 1) ts us
  length : ∀ {k ts us}, Paired k ts us → us.length = ts.length
  token : ∀ {k ts us}, Paired k ts us → (first us).token = (first ts).token
  skip : ∀ {k ts us}, Paired k ts us → Paired k (afterFirst ts) (afterFirst us)
  next : ∀ {k ts us}, Paired (k + 1) ts us → (first ts).token ≠ .eof →
    Paired k (afterFirst ts) (afterFirst us)
  attached : ∀ {k ts us}, Paired k ts us → (first ts).token = .bang →
    ((first (afterFirst us)).position = (first us).position + 1 ↔
      (first (afterFirst ts)).position = (first ts).position + 1)
  fails : ∀ {k ts us f}, Paired k ts us → Complaint f → Fails (f (first ts)) (f (first us))

namespace Pairing

variable (r : Pairing) {k : Nat} {P : α → Prop} {Q : β → Prop} {p q : Parse α} {ts us : List Lexeme}

/-- The results of two readings correspond, or the first reading gives up, and what the second reads
does not have the property `P`. -/
inductive Outcome (k : Nat) (P : α → Prop) :
    EStateM.Result ParseError (List Lexeme) α → EStateM.Result ParseError (List Lexeme) α → Prop
  | ok {x : α} {ts us : List Lexeme} : r.Paired k ts us → Outcome k P (.ok x ts) (.ok x us)
  | error {e f : ParseError} {ts us : List Lexeme} :
      r.Fails e f → r.Paired k ts us → Outcome k P (.error e ts) (.error f us)
  | givesUp {e : ParseError} {ts : List Lexeme} {result : EStateM.Result ParseError _ α} :
      r.GivesUp e → (∀ x us, result = .ok x us → ¬ P x) → Outcome k P (.error e ts) result

/-- Two readings have corresponding results on corresponding tokens. -/
def Agree (k : Nat) (P : α → Prop) (p q : Parse α) : Prop :=
  ∀ ts us, r.Paired k ts us → r.Outcome k P (p ts) (q us)

variable {r}

theorem Outcome.mono {a b : EStateM.Result ParseError (List Lexeme) α} (h : r.Outcome k P a b) :
    r.Outcome (k + 1) P a b := by
  cases h with
  | ok h => exact .ok (r.mono h)
  | error hfails h => exact .error hfails (r.mono h)
  | givesUp hgives hnot => exact .givesUp hgives hnot

/-! ### One reading after another -/

namespace Agree

theorem pure (x : α) : r.Agree k P (pure x) (pure x) :=
  fun _ _ h => .ok h

/-- Readings one after another, where what the second one makes of a result has the property `Q` only
if the result has the property `P`. -/
theorem bind {f g : α → Parse β} (hp : r.Agree k P p q) (hf : ∀ x, r.Agree k Q (f x) (g x))
    (hkeeps : ∀ x y ts us, g x ts = .ok y us → Q y → P x) :
    r.Agree k Q (p >>= f) (q >>= g) := by
  intro ts us h
  have hout := hp ts us h
  generalize hfirst : p ts = a at hout
  generalize hsecond : q us = b at hout
  cases hout with
  | ok hpaired =>
    rw [bind_of_ok hfirst, bind_of_ok hsecond]
    exact hf _ _ _ hpaired
  | error hfails hpaired =>
    rw [bind_of_error hfirst, bind_of_error hsecond]
    exact .error hfails hpaired
  | givesUp hgives hnot =>
    rw [bind_of_error hfirst]
    refine .givesUp hgives fun y vs hy hQ => ?_
    obtain ⟨x, ws, hx, hg⟩ := bind_eq_ok.1 hy
    exact hnot x ws (hsecond.symm.trans hx) (hkeeps x y ws vs hg hQ)

/-- A reading whose result does not matter, and another one. -/
theorem andThen {f g : α → Parse β} (hp : r.Agree k (fun _ => True) p q)
    (hf : ∀ x, r.Agree k Q (f x) (g x)) : r.Agree k Q (p >>= f) (q >>= g) :=
  hp.bind hf fun _ _ _ _ _ _ => trivial

theorem returning (hp : r.Agree k P p q) {f : α → β} (hf : ∀ x, Q (f x) → P x) :
    r.Agree k Q (do return f (← p)) (do return f (← q)) := by
  refine hp.bind (fun x => .pure (f x)) ?_
  intro x y ts us hy hQ
  obtain ⟨rfl, -⟩ := pure_eq_ok.1 hy
  exact hf x hQ

theorem map (hp : r.Agree k P p q) {f : α → β} (hf : ∀ x, Q (f x) → P x) :
    r.Agree k Q (f <$> p) (f <$> q) := by
  have hmap : ∀ p : Parse α, f <$> p = (do return f (← p)) := by
    intro p
    funext ts
    show EStateM.map f p ts = EStateM.bind p (fun x => EStateM.pure (f x)) ts
    unfold EStateM.map EStateM.bind
    cases p ts <;> rfl
  rw [hmap, hmap]
  exact hp.returning hf

/-! ### Single tokens -/

theorem unexpected (expected : Expected) : r.Agree k P (unexpected expected) (unexpected expected) :=
  fun _ _ h => .error (r.fails h .unexpected) h

theorem accept (t : Token) : r.Agree k (fun _ => True) (accept t) (accept t) := by
  intro ts us h
  rw [accept_apply, accept_apply, r.token h]
  split
  · exact .ok (r.skip h)
  · exact .ok h

theorem close (c : Bracketed) : r.Agree k (fun _ => True) (close c) (close c) := by
  refine (accept c.closing).andThen fun b => ?_
  cases b with
  | true => exact .pure ()
  | false => exact fun _ _ h => .error (r.fails h .missingClosing) h

theorem separator (c : Separated) : r.Agree k (fun _ => True) (separator c) (separator c) := by
  refine (accept .colon).andThen fun b => ?_
  cases b with
  | true => exact .pure ()
  | false => exact fun _ _ h => .error (r.fails h .missingSeparator) h

theorem advance : r.Agree k (fun _ => True) Parse.advance Parse.advance :=
  fun _ _ h => .ok (r.skip h)

/-- The next token is looked at. -/
theorem peeked {f g : Lexeme → Parse α} (h : r.Outcome k P (f (first ts) ts) (g (first us) us)) :
    r.Outcome k P ((peek >>= f) ts) ((peek >>= g) us) := h

/-- What is read after a token has to agree one level further down. -/
theorem afterToken (hp : r.Agree k P p q) (h : r.Paired (k + 1) ts us)
    (hne : (first ts).token ≠ .eof) :
    r.Outcome (k + 1) P ((do Parse.advance; p : Parse α) ts)
      ((do Parse.advance; q : Parse α) us) :=
  (hp _ _ (r.next h hne)).mono

/-- If a token is read, what follows has to agree one level further down. -/
theorem ifAccept {t : Token} (ht : t ≠ .eof) {p' q' : Parse α} (hyes : r.Agree k P p q)
    (hno : r.Agree (k + 1) P p' q') :
    r.Agree (k + 1) P (do if ← Parse.accept t then p else p')
      (do if ← Parse.accept t then q else q') := by
  intro ts us h
  by_cases htoken : (first ts).token = t
  · have hread : ∀ {vs}, (first vs).token = t → Parse.accept t vs = .ok true (afterFirst vs) := by
      intro vs hvs
      rw [accept_apply, if_pos hvs]
    rw [bind_of_ok (hread htoken), bind_of_ok (hread ((r.token h).trans htoken))]
    exact (hyes _ _ (r.next h (htoken ▸ ht))).mono
  · have htoken' : (first us).token ≠ t := (r.token h).symm ▸ htoken
    rw [bind_of_ok (accept_of_ne htoken), bind_of_ok (accept_of_ne htoken')]
    exact hno _ _ h

/-- What stands before a closing bracket. -/
theorem closed (hp : r.Agree k P p q) {c : Bracketed} {f : α → β} (hf : ∀ x, Q (f x) → P x) :
    r.Agree k Q (do let x ← p; Parse.close c; return f x)
      (do let x ← q; Parse.close c; return f x) := by
  refine hp.bind (fun x => (close c).andThen fun _ => .pure (f x)) ?_
  intro x y ts us hy hQ
  obtain ⟨_, vs, -, hy⟩ := bind_eq_ok.1 hy
  obtain ⟨rfl, -⟩ := pure_eq_ok.1 hy
  exact hf x hQ

/-! ### Repetition -/

section

variable {item item' : Parse (Option α)}

theorem upTo (h : r.Agree k (fun o => ∀ x ∈ o, P x) item item') (n : Nat) :
    r.Agree k (fun xs => ∀ x ∈ xs, P x) (upTo n item) (upTo n item') := by
  induction n with
  | zero => exact .pure []
  | succ n ih =>
    refine h.bind (fun o => ?_) ?_
    · cases o with
      | none => exact .pure []
      | some x => exact ih.returning fun xs hxs => (List.forall_mem_cons.1 hxs).2
    · intro o xs ts us hxs hP
      cases o with
      | none => simp
      | some x =>
        obtain ⟨ys, vs, -, hys⟩ := bind_eq_ok.1 hxs
        obtain ⟨rfl, -⟩ := pure_eq_ok.1 hys
        simpa using (List.forall_mem_cons.1 hP).1

theorem many (h : r.Agree k (fun o => ∀ x ∈ o, P x) item item') :
    r.Agree k (fun xs => ∀ x ∈ xs, P x) (many item) (many item') := by
  intro ts us hpaired
  have hupTo : r.Outcome k (fun xs => ∀ x ∈ xs, P x) (Parse.upTo ts.length item ts)
      (Parse.upTo us.length item' us) := by
    rw [r.length hpaired]
    exact h.upTo ts.length ts us hpaired
  exact hupTo

theorem listOf (h : r.Agree k (fun o => ∀ x ∈ o, P x) item item') :
    r.Agree k (fun xs => ∀ x ∈ xs, P x) (listOf item) (listOf item') := by
  have hcomma : r.Agree k (fun o => ∀ x ∈ o, P x) (afterComma item) (afterComma item') := by
    refine (accept .comma).andThen fun b => ?_
    cases b with
    | true => exact h
    | false => exact .pure none
  refine h.bind (fun o => ?_) ?_
  · cases o with
    | none => exact .pure []
    | some x => exact hcomma.many.returning fun xs hxs => (List.forall_mem_cons.1 hxs).2
  · intro o xs ts us hxs hP
    cases o with
    | none => simp
    | some x =>
      obtain ⟨ys, vs, -, hys⟩ := bind_eq_ok.1 hxs
      obtain ⟨rfl, -⟩ := pure_eq_ok.1 hys
      simpa using (List.forall_mem_cons.1 hP).1

end

/-! ### Chains -/

section

variable {op? : Token → Option ω} {operand operand' : Parse α}

theorem term (h : r.Agree k P operand operand') :
    r.Agree k (fun o => ∀ t ∈ o, P t.2) (term op? operand) (term op? operand') := by
  intro ts us hpaired
  cases hop : op? (first ts).token with
  | none =>
    rw [term_of_none operand hop, term_of_none operand' ((r.token hpaired).symm ▸ hop)]
    exact .ok hpaired
  | some op =>
    rw [term_of_some operand hop, term_of_some operand' ((r.token hpaired).symm ▸ hop)]
    have hread : r.Agree k (fun o => ∀ t ∈ o, P t.2) (do return some (op, ← operand))
        (do return some (op, ← operand')) := h.returning fun x hx => hx _ rfl
    exact hread _ _ (r.skip hpaired)

theorem chain (h : r.Agree k P operand operand') :
    r.Agree k (fun x => P x.1 ∧ ∀ t ∈ x.2, P t.2) (chain op? operand) (chain op? operand') := by
  rw [chain_eq, chain_eq]
  refine h.bind (fun x => h.term.many.returning fun ops hops => hops.2) ?_
  intro x y ts us hy hP
  obtain ⟨ops, vs, -, hops⟩ := bind_eq_ok.1 hy
  obtain ⟨rfl, -⟩ := pure_eq_ok.1 hops
  exact hP.1

end

/-- A chain has a property if all its operands have it. -/
theorem chainTree {op? : Token → Option ω} {operand operand' : Parse Expr}
    (h : r.Agree k (·.depth < k) operand operand') {node : Expr → List (ω × Expr) → Expr}
    (hdepth : ∀ x ops, (node x ops).depth = max x.depth (highest (ops.map fun t => t.2.depth))) :
    r.Agree k (·.depth < k) (chainTree node op? operand) (chainTree node op? operand') := by
  refine h.chain.returning ?_
  rintro ⟨x, ops⟩ hlt
  cases ops with
  | nil => exact ⟨hlt, by simp⟩
  | cons op ops =>
    cases k with
    | zero => exact absurd hlt (Nat.not_lt_zero _)
    | succ k =>
      have hnode : (node x (op :: ops)).depth < k + 1 := hlt
      rw [hdepth, Nat.lt_succ_iff, Nat.max_le, highest_le, List.forall_mem_map] at hnode
      exact ⟨Nat.lt_succ_iff.2 hnode.1, fun t ht => Nat.lt_succ_iff.2 (hnode.2 t ht)⟩

end Agree

/-! ### Heads of functions on both sides -/

/-- The tokens after the first one correspond, and the first one is found on both sides. -/
theorem Paired.uncons {l : Lexeme} {ts us : List Lexeme} (h : r.Paired k (l :: ts) us)
    (hl : l.token ≠ .eof) : ∃ q vs, us = ⟨l.token, q⟩ :: vs ∧ r.Paired k ts vs := by
  have hfirst : (first us).token = l.token := r.token h
  have hafter := r.skip h
  rw [afterFirst_cons hl] at hafter
  exact ⟨_, _, eq_cons_of_first hfirst hl, hafter⟩

theorem names_paired {ts us : List Lexeme} (h : r.Paired k ts us) :
    (names us).1 = (names ts).1 ∧ r.Paired k (names ts).2 (names us).2 := by
  fun_induction names ts generalizing us with
  | case1 name p q rest more after hnames ih =>
    obtain ⟨p', vs, rfl, hvs⟩ := Paired.uncons h (by simp)
    obtain ⟨q', ws, rfl, hws⟩ := Paired.uncons hvs (by simp)
    obtain ⟨hmore, hafter⟩ := ih hws
    rw [hnames] at hmore hafter
    rw [names]
    exact ⟨congrArg (name :: ·) hmore, hafter⟩
  | case2 name p rest hcomma =>
    obtain ⟨p', vs, rfl, hvs⟩ := Paired.uncons h (by simp)
    have hne : (first vs).token ≠ .comma := by
      rw [r.token hvs]
      intro hfirst
      exact hcomma _ _ (eq_cons_of_first hfirst (by simp))
    rw [names_identifier name p' vs hne]
    exact ⟨rfl, hvs⟩
  | case3 rest hcomma hname =>
    have hnames : names us = ([], us) := by
      cases us with
      | nil => rfl
      | cons l us =>
        have htoken : l.token = (first rest).token := r.token h
        refine names_of_ne_identifier l.position us fun x hx => ?_
        exact hname x _ _ (eq_cons_of_first (htoken.symm.trans hx) (by simp))
    rw [hnames]
    exact ⟨rfl, h⟩

/-- Corresponding tokens begin with the head of a function together. -/
theorem functionHead?_paired {ts us : List Lexeme} (h : r.Paired (k + 1) ts us) :
    (functionHead? ts = none ∧ functionHead? us = none) ∨
      ∃ params vs ws, functionHead? ts = some (params, vs) ∧ functionHead? us = some (params, ws) ∧
        r.Paired k vs ws := by
  have htoken := r.token h
  generalize ht : (first ts).token = t at htoken
  cases t with
  | openParen =>
    obtain ⟨hparams, hafter⟩ := names_paired (r.next h (ht ▸ by simp))
    rw [eq_cons_of_first ht (by simp), eq_cons_of_first htoken (by simp), functionHead?_listed,
      functionHead?_listed, hparams]
    unfold afterArrow?
    rw [r.token hafter, r.token (r.skip hafter)]
    split
    · exact .inr ⟨_, _, _, rfl, rfl, r.skip (r.skip hafter)⟩
    · exact .inl ⟨rfl, rfl⟩
  | identifier x =>
    rw [eq_cons_of_first ht (by simp), eq_cons_of_first htoken (by simp)]
    have hafter := r.next h (ht ▸ by simp)
    by_cases harrow : (first (afterFirst ts)).token = .arrow
    · rw [eq_cons_of_first harrow (by simp),
        eq_cons_of_first ((r.token hafter).trans harrow) (by simp)]
      exact .inr ⟨_, _, _, rfl, rfl, r.skip hafter⟩
    · have harrow' : (first (afterFirst us)).token ≠ .arrow := (r.token hafter).symm ▸ harrow
      exact .inl ⟨functionHead?_identifier x _ harrow, functionHead?_identifier x _ harrow'⟩
  | _ => exact .inl ⟨functionHead?_of_ne (by simp [ht]) (by simp [ht]),
      functionHead?_of_ne (by simp [htoken]) (by simp [htoken])⟩

/-! ### Rules -/

section

variable {sub sub' bang bang' : Parse Expr} (hsub : r.Agree k (·.depth < k) sub sub')
  (hbang : r.Agree k (·.depth < k) bang bang')

include hsub

theorem expression?_agree :
    r.Agree k (fun o => ∀ e ∈ o, e.depth < k) (expression? sub) (expression? sub') := by
  intro ts us h
  have hsome : r.Agree k (fun o => ∀ e ∈ o, e.depth < k) (some <$> sub) (some <$> sub') :=
    hsub.map fun e he => he e rfl
  show r.Outcome k _
    ((if startsExpression (first ts).token then some <$> sub else pure none : Parse _) ts)
    ((if startsExpression (first us).token then some <$> sub' else pure none : Parse _) us)
  rw [r.token h]
  split
  · exact hsome ts us h
  · exact .ok h

theorem step_agree :
    r.Agree (k + 1) (fun s : Segment => ∀ e ∈ s.args, e.depth < k) (step sub) (step sub') := by
  intro ts us h
  refine Agree.peeked ?_
  have htoken := r.token h
  generalize ht : (first ts).token = t at htoken ⊢
  rw [htoken]
  cases t with
  | identifier x =>
    refine Agree.afterToken ((Agree.accept .openParen).andThen fun b => ?_) h (ht ▸ by simp)
    cases b with
    | true => exact (expression?_agree hsub).listOf.closed fun args hargs => hargs
    | false => exact .pure (Segment.name x)
  | _ => exact Agree.unexpected .identifierAfterDot ts us h

theorem step?_agree :
    r.Agree (k + 1) (fun o : Option Segment => ∀ s ∈ o, ∀ e ∈ s.args, e.depth < k) (step? sub)
      (step? sub') := by
  refine (Agree.accept .dot).andThen fun b => ?_
  cases b with
  | true => exact (step_agree hsub).map fun s hs => hs s rfl
  | false =>
    refine Agree.ifAccept (by simp) ?_ (.pure none)
    refine hsub.closed fun offset hoffset => ?_
    exact hoffset _ rfl offset (by simp [Segment.args])

theorem path_agree : r.Agree (k + 1) (·.depth < k + 1) (path sub) (path sub') := by
  have hpath : ∀ s ss, (Expr.path (s :: ss)).depth < k + 1 →
      (∀ e ∈ s.args, e.depth < k) ∧ ∀ s ∈ ss, ∀ e ∈ s.args, e.depth < k := by
    intro s ss hlt
    exact List.forall_mem_cons.1 (Expr.depth_path_lt.1 hlt)
  refine (step_agree hsub).bind (fun s => (step?_agree hsub).many.returning fun ss hlt =>
    (hpath s ss hlt).2) ?_
  intro s e ts us he hlt
  obtain ⟨ss, vs, -, hss⟩ := bind_eq_ok.1 he
  obtain ⟨rfl, -⟩ := pure_eq_ok.1 hss
  exact (hpath s ss hlt).1

theorem property?_agree :
    r.Agree k (fun o => ∀ t ∈ o, t.2.depth < k) (property? sub) (property? sub') := by
  have hentry : ∀ key : String, r.Agree k (fun o : Option (String × Expr) => ∀ t ∈ o, t.2.depth < k)
      (do advance; separator .property; return some (key, ← sub))
      (do advance; separator .property; return some (key, ← sub')) := by
    intro key
    refine Agree.advance.andThen fun _ => (Agree.separator .property).andThen fun _ => ?_
    exact hsub.returning fun e he => he _ rfl
  intro ts us h
  refine Agree.peeked ?_
  rw [r.token h]
  generalize (first ts).token = t
  cases t with
  | text key => exact hentry key ts us h
  | identifier key => exact hentry key ts us h
  | _ => exact .ok h

include hbang

theorem plainOperand_agree :
    r.Agree (k + 1) (·.depth < k + 1) (plainOperand sub bang) (plainOperand sub' bang') := by
  intro ts us h
  refine Agree.peeked ?_
  have htoken := r.token h
  generalize ht : (first ts).token = t at htoken ⊢
  rw [htoken]
  have hne : t ≠ .eof → (first ts).token ≠ .eof := fun hne => ht ▸ hne
  have hliteral : ∀ e : Expr, t ≠ .eof → r.Outcome (k + 1) (·.depth < k + 1)
      ((do advance; return e : Parse Expr) ts) ((do advance; return e : Parse Expr) us) := by
    intro e hne
    exact (Agree.pure e).afterToken h (ht ▸ hne)
  cases t with
  | openParen =>
    refine Agree.afterToken (hsub.closed fun inner hlt => ?_) h (hne (by simp))
    rw [Expr.depth] at hlt
    exact Nat.lt_of_succ_lt_succ hlt
  | bang =>
    have hattached := r.attached h ht
    have hnot : r.Agree k (fun e : Expr => e.depth < k + 1) (do return .not (← bang))
        (do return .not (← bang')) := by
      refine hbang.returning fun operand hlt => ?_
      rw [Expr.depth] at hlt
      exact Nat.lt_of_succ_lt_succ hlt
    show r.Outcome (k + 1) _
      ((if (first (afterFirst ts)).position = (first ts).position + 1 then
        (do return .not (← bang)) else throw (.detachedNot (first ts).position) : Parse Expr)
        (afterFirst ts))
      ((if (first (afterFirst us)).position = (first us).position + 1 then
        (do return .not (← bang')) else throw (.detachedNot (first us).position) : Parse Expr)
        (afterFirst us))
    by_cases hposition : (first (afterFirst ts)).position = (first ts).position + 1
    · rw [if_pos hposition, if_pos (hattached.2 hposition)]
      exact (hnot _ _ (r.next h (hne (by simp)))).mono
    · rw [if_neg hposition, if_neg fun h => hposition (hattached.1 h)]
      exact .error (r.fails h .detachedNot) (r.skip h)
  | openBracket =>
    exact Agree.afterToken ((expression?_agree hsub).listOf.closed fun _ => Expr.depth_list_lt.1) h
      (hne (by simp))
  | openBrace =>
    exact Agree.afterToken ((property?_agree hsub).listOf.closed fun _ => Expr.depth_map_lt.1) h
      (hne (by simp))
  | boolean b => exact hliteral (.boolean b) (by simp)
  | number x => exact hliteral (.number x) (by simp)
  | text s => exact hliteral (.text s) (by simp)
  | identifier x => exact path_agree hsub ts us h
  | _ => exact Agree.unexpected .expression ts us h

theorem simple_agree : r.Agree (k + 1) (·.depth < k + 1) (simple sub bang) (simple sub' bang') := by
  intro ts us h
  obtain ⟨hts, hus⟩ | ⟨params, vs, ws, hts, hus, hpaired⟩ := functionHead?_paired h
  · rw [simple_of_plain hts, simple_of_plain hus]
    exact plainOperand_agree hsub hbang ts us h
  · rw [simple_of_head hts, simple_of_head hus]
    have hbody : r.Agree k (fun e : Expr => e.depth < k + 1) (do return .function params (← sub))
        (do return .function params (← sub')) := by
      refine hsub.returning fun body hlt => ?_
      rw [Expr.depth] at hlt
      exact Nat.lt_of_succ_lt_succ hlt
    exact (hbody vs ws hpaired).mono

theorem product_agree :
    r.Agree (k + 1) (·.depth < k + 1) (product sub bang) (product sub' bang') := by
  rw [product_eq, product_eq]
  exact (simple_agree hsub hbang).chainTree fun _ _ => by rw [Expr.depth]

theorem sum_agree : r.Agree (k + 1) (·.depth < k + 1) (sum sub bang) (sum sub' bang') := by
  rw [sum_eq, sum_eq]
  exact (product_agree hsub hbang).chainTree fun _ _ => by rw [Expr.depth]

theorem comparison_agree :
    r.Agree (k + 1) (·.depth < k + 1) (comparison sub bang) (comparison sub' bang') := by
  have hsum := sum_agree hsub hbang
  refine hsum.bind (fun left => ?_) ?_
  · intro ts us h
    refine Agree.peeked ?_
    rw [r.token h]
    cases compareOp? (first ts).token with
    | none => exact .ok h
    | some op =>
      refine (Agree.advance.andThen fun _ => hsum.returning fun right hlt => ?_) ts us h
      rw [Expr.depth] at hlt
      exact (Nat.max_lt.1 hlt).2
  · intro left e ts us he hlt
    obtain ⟨l, vs, -, he⟩ := bind_eq_ok.1 he
    cases hop : compareOp? l.token with
    | none =>
      rw [hop] at he
      obtain ⟨rfl, -⟩ := pure_eq_ok.1 he
      exact hlt
    | some op =>
      rw [hop] at he
      obtain ⟨_, ws, -, he⟩ := bind_eq_ok.1 he
      obtain ⟨right, xs, -, he⟩ := bind_eq_ok.1 he
      obtain ⟨rfl, -⟩ := pure_eq_ok.1 he
      rw [Expr.depth] at hlt
      exact (Nat.max_lt.1 hlt).1

theorem conjunction_agree :
    r.Agree (k + 1) (·.depth < k + 1) (conjunction sub bang) (conjunction sub' bang') := by
  rw [conjunction_eq, conjunction_eq]
  refine (comparison_agree hsub hbang).chainTree fun _ _ => ?_
  rw [Expr.depth, List.map_map]
  rfl

theorem disjunction_agree :
    r.Agree (k + 1) (·.depth < k + 1) (disjunction sub bang) (disjunction sub' bang') := by
  rw [disjunction_eq, disjunction_eq]
  refine (conjunction_agree hsub hbang).chainTree fun _ _ => ?_
  rw [Expr.depth, List.map_map]
  rfl

theorem conditional_agree :
    r.Agree (k + 1) (·.depth < k + 1) (conditional sub bang) (conditional sub' bang') := by
  have hcond : ∀ test yes no, (Expr.cond test yes no).depth < k + 1 →
      test.depth < k + 1 ∧ yes.depth < k ∧ no.depth < k := by
    intro test yes no hlt
    rw [Expr.depth, Nat.max_lt, Nat.succ_lt_succ_iff, Nat.max_lt] at hlt
    exact hlt
  refine (disjunction_agree hsub hbang).bind (fun test => ?_) ?_
  · refine Agree.ifAccept (by simp) ?_ (.pure test)
    refine hsub.bind (fun yes => (Agree.separator .conditional).andThen fun _ =>
      hsub.returning fun no hlt => (hcond test yes no hlt).2.2) ?_
    intro yes e ts us he hlt
    obtain ⟨_, vs, -, he⟩ := bind_eq_ok.1 he
    obtain ⟨no, ws, -, he⟩ := bind_eq_ok.1 he
    obtain ⟨rfl, -⟩ := pure_eq_ok.1 he
    exact (hcond test yes no hlt).2.1
  · intro test e ts us he hlt
    obtain ⟨b, vs, -, he⟩ := bind_eq_ok.1 he
    cases b with
    | false =>
      obtain ⟨rfl, -⟩ := pure_eq_ok.1 he
      exact hlt
    | true =>
      obtain ⟨yes, ws, -, he⟩ := bind_eq_ok.1 he
      obtain ⟨_, xs, -, he⟩ := bind_eq_ok.1 he
      obtain ⟨no, ys, -, he⟩ := bind_eq_ok.1 he
      obtain ⟨rfl, -⟩ := pure_eq_ok.1 he
      exact (hcond test yes no hlt).1

end

end Pairing

end Parse

end HostExpr
