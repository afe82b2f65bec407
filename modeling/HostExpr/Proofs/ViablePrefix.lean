import HostExpr.Proofs.Completions
import HostExpr.Proofs.NestingLimit

/-!
# The tokens before an error

Wherever the reading of an input fails, unless something is nested too deep, the tokens before the one
that the error is about are the beginning of an input that can be read.

* `Parse.functionHead?_of_plainOperand`: what is read as another operand is taken for the head of a
  function before an arrow only;
* `Parse.conditional_completes`, `Parse.simple_completes`: the rules of the parser;
* `Parse.levels_completes`: what is read with a limit of the nesting can be completed to what is read
  without one;
* `Parser.input_viable_prefix`: the tokens before an error.
-/

namespace HostExpr

namespace Parse

open Stateful Grammar

/-- An expression can start with the token. -/
def Starts (t : Token) : Prop :=
  startsExpression t

/-! ### Without a limit -/

theorem unlimited_sound : Sound (Spells .expression) (fun _ => True) unlimited := by
  intro ts e rest h
  obtain ⟨used, hused, hspells, -⟩ := (levels_sound (ts.length + 1)).1 ts e rest h
  exact ⟨used, hused, hspells, trivial⟩

theorem unlimited_number (p : Nat) {rest : List Lexeme} (h : Stops (first rest).token) :
    unlimited (⟨.number 0, p⟩ :: rest) = .ok (.number 0) rest := by
  have hsimple : simple unlimited unlimitedOperand (⟨.number 0, p⟩ :: rest) = .ok (.number 0) rest :=
    simple_of_plain rfl
  rw [unlimited_eq.1]
  exact conditional_of_simple hsimple h

/-! ### Heads of functions -/

/-- What is read as another operand is the head of a function only if it is a list of parameters and an
arrow follows. -/
theorem functionHead?_of_plainOperand {P : Expr → Prop} {sub bang : Parse Expr}
    (hsub : Sound (Spells .expression) P sub) {e : Expr} {ts rest : List Lexeme}
    (h : plainOperand sub bang ts = .ok e rest) {head : List String × List Lexeme}
    (hhead : functionHead? ts = some head) :
    ∃ params used, Reads ts used rest ∧ Params params used ∧ (first rest).token = .arrow := by
  have hnot : functionHead? ts ≠ none := by simp [hhead]
  generalize ht : (first ts).token = t
  cases t with
  | openParen =>
    have hts := eq_cons_of_first ht (by simp)
    generalize (first ts).position = p at hts
    generalize afterFirst ts = us at hts
    subst hts
    have hread : (do let inner ← sub; close .wrapped; return Expr.wrapped inner : Parse Expr) us =
        .ok e rest := h
    obtain ⟨inner, vs, hinner, hread⟩ := bind_eq_ok.1 hread
    obtain ⟨_, ws, hclose, hread⟩ := bind_eq_ok.1 hread
    obtain ⟨-, rfl⟩ := pure_eq_ok.1 hread
    obtain ⟨q, rfl⟩ := close_eq_ok hclose
    obtain ⟨used, hused, hspells, -⟩ := hsub us inner _ hinner
    have hone : (∃ x k, used = [⟨.identifier x, k⟩]) ∧ (first ws).token = .arrow := by
      refine Classical.not_not.1 fun hneither => hnot ?_
      rw [hused.1]
      exact functionHead?_wrapped hspells p q fun x k hx harrow => hneither ⟨⟨x, k, hx⟩, harrow⟩
    obtain ⟨⟨x, k, rfl⟩, harrow⟩ := hone
    have hreads := (hused.concat (by simp [Bracketed.closing])).cons (l := ⟨.openParen, p⟩) (by simp)
    exact ⟨[x], _, hreads, .listed (.last .mk), harrow⟩
  | identifier x =>
    have hts := eq_cons_of_first ht (by simp)
    generalize (first ts).position = p at hts
    generalize afterFirst ts = us at hts
    subst hts
    have harrow : (first us).token = .arrow := by
      refine Classical.not_not.1 fun hne => hnot ?_
      exact functionHead?_identifier x p hne
    have hus := eq_cons_of_first harrow (by simp)
    generalize (first us).position = q at hus
    generalize afterFirst us = vs at hus
    subst hus
    have hname : step sub (⟨.identifier x, p⟩ :: ⟨.arrow, q⟩ :: vs) =
        .ok (.name x) (⟨.arrow, q⟩ :: vs) := rfl
    have hstop : step? sub (⟨.arrow, q⟩ :: vs) = .ok none (⟨.arrow, q⟩ :: vs) := rfl
    have hpath : path sub (⟨.identifier x, p⟩ :: ⟨.arrow, q⟩ :: vs) =
        .ok (.path [.name x]) (⟨.arrow, q⟩ :: vs) :=
      (bind_of_ok hname).trans (bind_of_ok (Repeats.stop hstop).many)
    obtain ⟨-, rfl⟩ := EStateM.Result.ok.inj (hpath.symm.trans h)
    exact ⟨[x], _, .one (by simp), .bare, rfl⟩
  | _ => exact absurd (functionHead?_of_ne (by simp [ht]) (by simp [ht])) hnot

/-! ### Paths -/

section

variable {sub : Parse Expr} (hsub : Completes Stops Starts (fun _ => True) sub unlimited)

include hsub

theorem expression?_completes :
    Completes Closes Starts (fun o => o.isSome) (expression? sub) (expression? unlimited) := by
  have hstarts : ∀ (sub : Parse Expr) {us : List Lexeme}, startsExpression (first us).token = true →
      expression? sub us = (some <$> sub) us := by
    intro sub us h
    refine (bind_of_ok (peek_apply us)).trans ?_
    rw [if_pos h]
  have hnothing : ∀ (sub : Parse Expr) {us : List Lexeme}, startsExpression (first us).token = false →
      expression? sub us = .ok none us := by
    intro sub us h
    refine (bind_of_ok (peek_apply us)).trans ?_
    rw [h]
    rfl
  intro ts hts
  cases hfirst : startsExpression (first ts).token with
  | true =>
    have hsome : Completes Closes Starts (fun _ => True) (some <$> sub) (some <$> unlimited) :=
      (hsub.weaken fun _ => Closes.stops).map some fun _ _ => trivial
    refine completable_branch hts hsome (hstarts sub hfirst) (fun us hus => ?_) fun _ _ => trivial
    refine hstarts unlimited ?_
    rcases hus with hsame | ⟨-, x, hnever⟩ | hus
    · exact hsame ▸ hfirst
    · exact absurd trivial hnever
    · exact hus
  | false =>
    refine completable_nothing (by simp) (hnothing sub hfirst) fun rest' hlike => ?_
    refine hnothing unlimited ?_
    rcases hlike with hsame | ⟨c, hc⟩
    · exact hsame ▸ hfirst
    · rw [← hc]
      cases c <;> rfl

/-- What follows the name of a step. -/
theorem named_completes (x : String) :
    Completes Stops (fun _ => False) (fun _ => False) (named sub x) (named unlimited x) := by
  have hcall := (expression?_completes hsub).listOf.closed .arguments (Segment.call x)
  exact Completes.ifAccept (by simp) hcall (.pure id) (by simp [Stops, Token.goesOn?]) id

theorem step_completes :
    Completes Stops (fun _ => True) (fun _ => True) (step sub) (step unlimited) := by
  intro ts hts
  obtain ⟨⟨t, pos⟩, ts, rfl⟩ := hts.exists_cons
  cases t with
  | identifier x =>
    exact completable_afterToken (by simp) hts (named_completes hsub x) (step_identifier sub x pos ts)
      (step_identifier unlimited x pos)
  | _ =>
    refine completable_blamed rfl .unexpected (.identifier "x") [] (.name "x") trivial fun rest' hrest => ?_
    refine bind_of_ok (accept_of_ne ?_)
    exact Rank.ne_of_endsBefore (r := .operand) (Rank.endsBefore_of_none hrest) rfl

theorem step?_completes :
    Completes Stops (fun _ => False) (fun o => o.isSome) (step? sub) (step? unlimited) := by
  have hkey := (hsub.weaken fun _ => Closes.stops).closed .offset fun offset => some (Segment.key offset)
  have hstep : Completes Stops (fun _ => True) (fun _ => True) (some <$> step sub)
      (some <$> step unlimited) := (step_completes hsub).map some fun _ _ => trivial
  refine Completes.ifAccept (by simp) hstep ?_ (by simp [Stops, Token.goesOn?]) id
  exact Completes.ifAccept (by simp) hkey (.pure (by simp)) (by simp [Stops, Token.goesOn?]) id

/-- The steps of a path after its first name. -/
theorem path_completes (x : String) :
    Completes Stops (fun _ => False) (fun _ => False)
      (do let head ← named sub x; return Expr.path (head :: (← many (step? sub))))
      (do let head ← named unlimited x; return Expr.path (head :: (← many (step? unlimited)))) := by
  have hstop : ∀ rest, Stops (first rest).token → step? unlimited rest = .ok none rest :=
    fun rest hrest => step?_of_end (Rank.endsBefore_of_none hrest)
  refine (named_completes hsub x).andThen (fun head => ?_) (fun head => ?_) fun _ _ => False.elim
  · exact ((step?_completes hsub).many hstop).returning _ fun _ h => h
  · exact (Completes.finishes_many hstop).returning

/-- A colon and an expression. -/
theorem separated_completes {α : Type} (c : Separated) (f : Expr → α) :
    Completes Stops (· = .colon) (fun _ => True) (do separator c; return f (← sub))
      (do separator c; return f (← unlimited)) := by
  have hread : ∀ (sub : Parse Expr) (p : Nat) (us : List Lexeme),
      (do separator c; return f (← sub) : Parse α) (⟨.colon, p⟩ :: us) =
        (do return f (← sub) : Parse α) us :=
    fun sub p us => bind_of_ok (separator_apply c p us)
  intro ts hts
  obtain ⟨⟨t, pos⟩, ts, rfl⟩ := hts.exists_cons
  by_cases ht : t = .colon
  · subst ht
    have hvalue : Completes Stops Starts (fun _ => False) (do return f (← sub))
        (do return f (← unlimited)) := hsub.returning f fun _ => False.elim
    exact completable_afterToken (by simp) hts hvalue (hread sub pos ts) (hread unlimited pos)
  · refine completable_blamed (bind_of_error (Completes.separator_of_ne (by exact ht)))
      .missingSeparator .colon [⟨.number 0, pos⟩] (f (.number 0)) rfl fun rest' hrest => ?_
    exact (hread unlimited pos _).trans (bind_of_ok (unlimited_number pos hrest))

omit hsub in
theorem property?_of_ne {us : List Lexeme} (htext : ∀ key, (first us).token ≠ .text key)
    (hname : ∀ key, (first us).token ≠ .identifier key) : property? sub us = .ok none us := by
  refine (bind_of_ok (peek_apply us)).trans ?_
  generalize (first us).token = t at htext hname
  cases t with
  | text key => exact absurd rfl (htext key)
  | identifier key => exact absurd rfl (hname key)
  | _ => rfl

theorem property?_completes :
    Completes Closes (fun _ => False) (fun o => o.isSome) (property? sub) (property? unlimited) := by
  have hentry := fun key : String =>
    (separated_completes hsub .property fun e => some (key, e)).weaken fun _ => Closes.stops
  intro ts hts
  obtain ⟨⟨t, pos⟩, ts, rfl⟩ := hts.exists_cons
  cases t with
  | text key => exact completable_afterToken (by simp) hts (hentry key) rfl fun _ => rfl
  | identifier key => exact completable_afterToken (by simp) hts (hentry key) rfl fun _ => rfl
  | _ =>
    refine completable_nothing (by simp) rfl fun rest' hlike => ?_
    refine property?_of_ne (fun key hkey => ?_) fun key hkey => ?_
    all_goals
      rw [GoesOnLike, hkey] at hlike
      rcases hlike with hsame | ⟨c, hc⟩
      · exact absurd hsame (by simp [first])
      · cases c <;> exact absurd hc (by simp [Bracketed.closing])

/-! ### Operands -/

section

variable {bang : Parse Expr} (hbang : Completes Stops Starts (fun _ => True) bang unlimitedOperand)

include hbang

omit hsub in
/-- An operand after a `!`, which has to stand right after it. -/
theorem not_completes {p : Nat} {ts : List Lexeme} (hts : Ended (⟨.bang, p⟩ :: ts)) :
    Completable Stops Starts (fun _ => True) (Finding (plainOperand unlimited unlimitedOperand))
      (⟨.bang, p⟩ :: ts) (plainOperand sub bang (⟨.bang, p⟩ :: ts)) := by
  have hread : ∀ (sub bang : Parse Expr) (us : List Lexeme), plainOperand sub bang (⟨.bang, p⟩ :: us) =
      (if (first us).position = p + 1 then (do return .not (← bang)) else throw (.detachedNot p) :
        Parse Expr) us := fun _ _ _ => rfl
  by_cases hposition : (first ts).position = p + 1
  · have hattached : ∀ {us : List Lexeme}, (first us).position = p + 1 → ∀ sub bang : Parse Expr,
        plainOperand sub bang (⟨.bang, p⟩ :: us) = (do return .not (← bang) : Parse Expr) us := by
      intro us hus sub bang
      rw [hread, if_pos hus]
    have hnot : Completes Stops Starts (fun _ => True) (do return Expr.not (← bang))
        (do return Expr.not (← unlimitedOperand)) := hbang.returning _ fun _ _ => trivial
    have hone : Reads (⟨.bang, p⟩ :: ts) [⟨.bang, p⟩] ts := .one (by simp)
    have hout := hnot ts (hone.ended hts)
    rw [hattached hposition]
    generalize (do return Expr.not (← bang) : Parse Expr) ts = a at hout
    cases hout with
    | ok hused huses hfound =>
      refine .ok (hused.cons (by simp)) (by simp) fun rest' hlike => ?_
      refine (hattached ?_ _ _).trans (hfound rest' hlike)
      obtain ⟨m, used, rfl⟩ := List.exists_cons_of_ne_nil (huses trivial)
      rw [hused.1] at hposition
      exact hposition
    | @error _ used _ _ _ t more x hused hblames hfirst hfound =>
      refine .error t more x (hused.cons (by simp)) hblames (by simp) fun rest' hrest => ?_
      refine (hattached ?_ _ _).trans (hfound rest' hrest)
      -- what stands in the place of the blamed token is as far from the `!` as that token
      rw [hused.1] at hposition
      cases used with
      | nil => exact hposition
      | cons m used => exact hposition
    | tooDeep => exact .tooDeep
  · have hblames : (ParseError.detachedNot p).Blames ⟨.bang, p⟩ :=
      @ParseError.Blames.detachedNot ⟨.bang, p⟩ rfl
    have herror : plainOperand sub bang (⟨.bang, p⟩ :: ts) = .error (.detachedNot p) ts := by
      rw [hread, if_neg hposition]
      rfl
    exact completable_blamed herror hblames (.number 0) [] (.number 0) rfl fun rest' _ => rfl

theorem plainOperand_completes :
    Completes Stops Starts (fun _ => True) (plainOperand sub bang)
      (plainOperand unlimited unlimitedOperand) := by
  have hliteral : ∀ e : Expr, Completes Stops (fun _ => False) (fun _ => False) (pure e : Parse Expr)
      (pure e) := fun e => .pure id
  have hinside := hsub.weaken fun _ => Closes.stops
  intro ts hts
  obtain ⟨⟨t, pos⟩, ts, rfl⟩ := hts.exists_cons
  cases t with
  | openParen =>
    exact completable_afterToken (by simp) hts (hinside.closed .wrapped Expr.wrapped) rfl fun _ => rfl
  | bang => exact not_completes hbang hts
  | openBracket =>
    have hitems := (expression?_completes hsub).listOf.closed .list Expr.list
    exact completable_afterToken (by simp) hts hitems rfl fun _ => rfl
  | openBrace =>
    have hentries := (property?_completes hsub).listOf.closed .map Expr.map
    exact completable_afterToken (by simp) hts hentries rfl fun _ => rfl
  | boolean b => exact completable_afterToken (by simp) hts (hliteral (.boolean b)) rfl fun _ => rfl
  | number x => exact completable_afterToken (by simp) hts (hliteral (.number x)) rfl fun _ => rfl
  | text s => exact completable_afterToken (by simp) hts (hliteral (.text s)) rfl fun _ => rfl
  | identifier x => exact completable_afterToken (by simp) hts (path_completes hsub x) rfl fun _ => rfl
  | _ =>
    exact completable_blamed rfl .unexpected (.number 0) [] (.number 0) rfl fun rest' _ => rfl

/-- A plain operand in the first reading is a plain operand in the second one: what has been read of it
is no list of parameters before an arrow, and what completes it is no arrow. -/
theorem simple_completes :
    Completes Stops Starts (fun _ => True) (simple sub bang) (simple unlimited unlimitedOperand) := by
  have harrow : ∀ {rest : List Lexeme}, Stops (first rest).token → (first rest).token ≠ .arrow := by
    intro rest hrest hfirst
    rw [hfirst] at hrest
    exact absurd hrest (by simp [Stops, Token.goesOn?])
  intro ts hts
  cases hhead : functionHead? ts with
  | some head =>
    obtain ⟨params, us⟩ := head
    obtain ⟨used, p, hused, hparams⟩ := functionHead?_sound hhead
    have hbody : Completes Stops Starts (fun _ => False) (do return Expr.function params (← sub))
        (do return Expr.function params (← unlimited)) := hsub.returning _ fun _ => False.elim
    refine completable_afterTokens hused (by simp) hts hbody (simple_of_head hhead) fun vs => ?_
    rw [List.append_assoc]
    exact simple_of_head (functionHead?_complete hparams p vs)
  | none =>
    have hout := plainOperand_completes hsub hbang ts hts
    rw [simple_of_plain hhead]
    generalize plainOperand sub bang ts = a at hout
    cases hout with
    | @ok x used rest hused huses hfound =>
      refine .ok hused huses fun rest' hlike => (simple_of_plain ?_).trans (hfound rest' hlike)
      cases hhead' : functionHead? (used ++ rest') with
      | none => rfl
      | some head =>
        obtain ⟨params, used', hused', hparams, hfirst⟩ :=
          functionHead?_of_plainOperand unlimited_sound (hfound rest' hlike) hhead'
        obtain rfl := List.append_cancel_right hused'.1
        rcases hlike with hsame | hstops
        · have hrest := eq_cons_of_first (hsame.symm.trans hfirst) (by simp)
          rw [hused.1, hrest, functionHead?_complete hparams] at hhead
          exact absurd hhead (by simp)
        · exact absurd hfirst (harrow hstops)
    | error t more x hused hblames hearly hfound =>
      refine .error t more x hused hblames hearly fun rest' hrest => ?_
      refine (simple_of_plain ?_).trans (hfound rest' hrest)
      cases hhead' : functionHead? _ with
      | none => rfl
      | some head =>
        obtain ⟨params, used', -, -, hfirst⟩ :=
          functionHead?_of_plainOperand unlimited_sound (hfound rest' hrest) hhead'
        exact absurd hfirst (harrow hrest)
    | tooDeep => exact .tooDeep

/-! ### Chains -/

theorem product_completes :
    Completes Stops Starts (fun _ => True) (product sub bang) (product unlimited unlimitedOperand) := by
  rw [product_eq, product_eq]
  exact (simple_completes hsub hbang).chainTree operators_mulOp? .product

theorem sum_completes :
    Completes Stops Starts (fun _ => True) (sum sub bang) (sum unlimited unlimitedOperand) := by
  rw [sum_eq, sum_eq]
  exact (product_completes hsub hbang).chainTree operators_addOp? .sum

theorem comparison_completes :
    Completes Stops Starts (fun _ => True) (comparison sub bang)
      (comparison unlimited unlimitedOperand) := by
  have hsum := sum_completes hsub hbang
  rw [comparison_eq, comparison_eq]
  refine hsum.andThen (fun left => ?_) (fun left => ?_) fun _ _ h => h
  · intro ts hts
    obtain ⟨⟨t, pos⟩, ts, rfl⟩ := hts.exists_cons
    cases ht : compareOp? t with
    | none =>
      have hnone : compareOp? (first (⟨t, pos⟩ :: ts)).token = none := ht
      exact completable_nothing id (compared_of_none sub bang left hnone) fun rest' hlike =>
        compared_of_none _ _ left (operators_compareOp?.none_of_goesOnLike hnone hlike)
    | some op =>
      have hne : t ≠ .eof := by
        rintro rfl
        exact absurd ht (by simp [compareOp?])
      have hread : ∀ (sub bang : Parse Expr) (us : List Lexeme), compared sub bang left (⟨t, pos⟩ :: us) =
          (do return .compare op left (← sum sub bang) : Parse Expr) us := by
        intro sub bang us
        have hfirst : compareOp? (first (⟨t, pos⟩ :: us)).token = some op := ht
        rw [compared_of_some sub bang left hfirst, afterFirst_cons hne]
      have hright : Completes Stops Starts (fun _ => False)
          (do return Expr.compare op left (← sum sub bang))
          (do return Expr.compare op left (← sum unlimited unlimitedOperand)) :=
        hsum.returning _ fun _ => False.elim
      exact completable_afterToken hne hts hright (hread sub bang ts) (hread _ _)
  · refine ⟨[], left, fun rest' hrest => ⟨hrest, compared_of_none _ _ left ?_⟩⟩
    exact operators_compareOp?.eq_none (Rank.endsBefore_of_none hrest)

theorem conjunction_completes :
    Completes Stops Starts (fun _ => True) (conjunction sub bang)
      (conjunction unlimited unlimitedOperand) := by
  rw [conjunction_eq, conjunction_eq]
  exact (comparison_completes hsub hbang).chainTree operators_andOp? _

theorem disjunction_completes :
    Completes Stops Starts (fun _ => True) (disjunction sub bang)
      (disjunction unlimited unlimitedOperand) := by
  rw [disjunction_eq, disjunction_eq]
  exact (conjunction_completes hsub hbang).chainTree operators_orOp? _

theorem conditional_completes :
    Completes Stops Starts (fun _ => True) (conditional sub bang)
      (conditional unlimited unlimitedOperand) := by
  refine (disjunction_completes hsub hbang).andThen (fun test => ?_) (fun test => ?_) fun _ _ h => h
  · have hno : ∀ yes, Completes Stops (· = .colon) (fun _ => True)
        (do separator .conditional; return Expr.cond test yes (← sub))
        (do separator .conditional; return Expr.cond test yes (← unlimited)) :=
      fun yes => separated_completes hsub .conditional (Expr.cond test yes)
    have hfinish : ∀ yes, Finishes Stops Stops
        (do separator .conditional; return Expr.cond test yes (← unlimited)) := by
      refine fun yes => ⟨[⟨.colon, 0⟩, ⟨.number 0, 0⟩], .cond test yes (.number 0), fun rest' hrest => ?_⟩
      refine ⟨rfl, (bind_of_ok (separator_apply .conditional 0 _)).trans ?_⟩
      exact bind_of_ok (unlimited_number 0 hrest)
    have hcolon : ∀ t : Token, t = .colon → Stops t ∧ True := by
      rintro t rfl
      exact ⟨rfl, trivial⟩
    have hbranches : Completes Stops (fun _ => True) (fun _ => True)
        (do let yes ← sub; separator .conditional; return Expr.cond test yes (← sub))
        (do let yes ← unlimited; separator .conditional; return Expr.cond test yes (← unlimited)) :=
      hsub.bind hno (fun _ _ _ h => h) (fun _ _ => trivial) hcolon hfinish fun _ _ _ => .inl trivial
    exact Completes.ifAccept (by simp) hbranches (.pure id) (by simp [Stops, Token.goesOn?]) id
  · refine ⟨[], test, fun rest' hrest => ⟨hrest, bind_of_ok (accept_of_ne ?_)⟩⟩
    exact Rank.ne_of_endsBefore (r := .expression) (Rank.endsBefore_of_none hrest) rfl

end

end

/-! ### All levels -/

theorem levels_completes (n : Nat) :
    Completes Stops Starts (fun _ => True) (expression n) unlimited ∧
      Completes Stops Starts (fun _ => True) (operand n) unlimitedOperand := by
  induction n with
  | zero => exact ⟨fun _ _ => .tooDeep, fun _ _ => .tooDeep⟩
  | succ n ih =>
    obtain ⟨hexpression, hoperand⟩ := unlimited_eq
    have hconditional := conditional_completes ih.1 ih.2
    have hsimple := simple_completes ih.1 ih.2
    rw [← hexpression] at hconditional
    rw [← hoperand] at hsimple
    exact ⟨hconditional, hsimple⟩

/-- What is found before the end of the text is all that stands before it, and so the end of the text is
not among it. -/
theorem unlimited_before_eof {e : Expr} {ts : List Lexeme} {p : Nat}
    (h : unlimited (ts ++ [⟨.eof, p⟩]) = .ok e [⟨.eof, p⟩]) : ∀ l ∈ ts, l.token ≠ .eof := by
  obtain ⟨used, hused, -, -⟩ := unlimited_sound _ e _ h
  obtain rfl := List.append_cancel_right hused.1
  exact hused.2

end Parse

namespace Parser

open Stateful Parse

/-- Tokens that are found before the end of the text are accepted. -/
theorem unlimitedInput_of_before_eof {us : List Lexeme} {x : Expr}
    (h : ∀ p, unlimited (us ++ [⟨.eof, p⟩]) = .ok x [⟨.eof, p⟩]) :
    (ofTokens us).unlimitedInput.1 = .ok x := by
  obtain ⟨p, hbuffer⟩ := rest_ofTokens_of_ne (unlimited_before_eof (h 0))
  have hread : inputOf unlimited (ofTokens us).rest = .ok x [⟨.eof, p⟩] := by
    rw [hbuffer, inputOf_of_ok (h p)]
    rfl
  unfold unlimitedInput run
  rw [hread]

/-- **The tokens before an error.**  If an input is refused, but not because something is nested too
deep, then the error is about one of its tokens, with its place: about the one that it names, or about a
`!`.  No end of the text stands before this token, and the tokens before it are the beginning of an
input that is read without a limit of the nesting. -/
theorem input_viable_prefix {tokens : List Lexeme} {e : ParseError}
    (h : (ofTokens tokens).input.1 = .error e) (hdeep : ∀ p, e ≠ .tooDeep p) :
    ∃ before l after, (ofTokens tokens).rest = before ++ l :: after ∧
      (∀ m ∈ before, m.token ≠ .eof) ∧ e.Blames l ∧
      ∃ more tree, (∀ m ∈ more, m.token ≠ .eof) ∧
        (ofTokens (before ++ more)).unlimitedInput.1 = .ok tree := by
  have hended : Ended (ofTokens tokens).rest := by
    obtain ⟨us, p, hbuffer⟩ := exists_ofTokens_eq tokens
    exact ⟨⟨.eof, p⟩, by simp [hbuffer], rfl⟩
  obtain ⟨left, hread⟩ := exists_of_run_error h
  rw [Parse.input_eq] at hread
  have hout := (levels_completes maxNesting).1 _ hended
  generalize hexpression : Parse.expression maxNesting (ofTokens tokens).rest = a at hout
  cases hout with
  | @ok x used rest hused huses hfound =>
    -- an expression has been read, and something else than the end of the text follows
    obtain ⟨l, after, rfl⟩ := (hused.ended hended).exists_cons
    rw [inputOf_of_ok hexpression] at hread
    split at hread
    · exact absurd hread (by simp)
    · obtain ⟨rfl, -⟩ := EStateM.Result.error.inj hread
      refine ⟨used, l, after, hused.1, hused.2, .unexpected, [], x, by simp, ?_⟩
      refine unlimitedInput_of_before_eof fun p => ?_
      rw [List.append_nil]
      exact hfound _ (.inr rfl)
  | @error _ used after _ l t more x hused hblames hfirst hfound =>
    obtain ⟨rfl, -⟩ := EStateM.Result.error.inj ((bind_of_error hexpression).symm.trans hread)
    have hcompleted : ∀ p, unlimited ((used ++ ⟨t, l.position⟩ :: more) ++ [⟨.eof, p⟩]) =
        .ok x [⟨.eof, p⟩] := by
      intro p
      rw [List.append_assoc]
      exact hfound [⟨.eof, p⟩] rfl
    refine ⟨used, l, after, hused.1, hused.2, hblames, ⟨t, l.position⟩ :: more, x, fun m hm => ?_, ?_⟩
    · exact unlimited_before_eof (hcompleted 0) m (List.mem_append_right used hm)
    · exact unlimitedInput_of_before_eof hcompleted
  | tooDeep =>
    obtain ⟨rfl, -⟩ := EStateM.Result.error.inj ((bind_of_error hexpression).symm.trans hread)
    exact absurd rfl (hdeep _)

/-- A call that ends with a comma. -/
theorem input_viable_prefix_unclosed :
    ∃ before l after, (ofTokens [⟨.identifier "f", 0⟩, ⟨.openParen, 1⟩, ⟨.identifier "a", 2⟩,
        ⟨.comma, 3⟩]).rest = before ++ l :: after ∧
      (∀ m ∈ before, m.token ≠ .eof) ∧ (ParseError.missingClosing .arguments ⟨.eof, 4⟩).Blames l ∧
      ∃ more tree, (∀ m ∈ more, m.token ≠ .eof) ∧
        (ofTokens (before ++ more)).unlimitedInput.1 = .ok tree :=
  input_viable_prefix rfl (by simp)

end Parser

end HostExpr
