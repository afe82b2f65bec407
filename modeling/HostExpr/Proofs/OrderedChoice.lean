import HostExpr.Proofs.BufferReading

/-!
# Ordered choice

An operand is read from a buffer by trying one alternative after another, and from tokens by looking at
what stands at the front of them.  Both come to the same.  The attempt to read a function is the one that
can read some tokens before it turns out not to apply: it finds a function exactly where the whole head of
one stands (`Parse.function?_cases`).  All other alternatives are told apart by a single token.

* `Reading.step_follows`, `Reading.path_follows`, ...: the rules of the grammar, one by one;
* `Parse.function?_cases`: when a function is found;
* `Reading.simple_follows`: an operand, first of the alternatives that apply;
* `Reading.conditional_follows`: all of an expression on one level.
-/

namespace HostExpr

open Stateful

namespace Reading

/-! ### Rules -/

section

variable {depth : Nat} {sub : Reading Expr} {sub' : Parse Expr}

theorem expression?_follows (hsub : Follows depth sub sub') :
    Follows depth (expression? sub) (Parse.expression? sub') :=
  Follows.peek.bind fun _ => (hsub.map some).ite (.pure none)

theorem expression?_untouched : Parse.Untouched (Parse.expression? sub') := by
  refine .peeked fun l => ?_
  split
  · exact (Parse.FindsSome.map sub').untouched
  · exact .nothing

theorem step_follows (hsub : Follows depth sub sub') :
    Follows depth (step sub) (Parse.step sub') := by
  refine Follows.peek.bind fun l => ?_
  cases l.token with
  | identifier name =>
    refine Follows.advance.bind fun _ => Follows.ifAccept .openParen ?_ (.pure _)
    refine ((expression?_follows hsub).listOf expression?_untouched).bind fun args => ?_
    exact (Follows.close .arguments).bind fun _ => .pure _
  | _ => exact .unexpected .identifierAfterDot

theorem step?_follows (hsub : Follows depth sub sub') :
    Follows depth (step? sub) (Parse.step? sub') := by
  refine Follows.ifAccept .dot ((step_follows hsub).map some) ?_
  refine Follows.ifAccept .openBracket ?_ (.pure none)
  exact hsub.bind fun offset => (Follows.close .offset).bind fun _ => .pure _

theorem path_follows (hsub : Follows depth sub sub') :
    Follows depth (path sub) (Parse.path sub') :=
  (step_follows hsub).bind fun head => (step?_follows hsub).many.returning fun rest =>
    Expr.path (head :: rest)

theorem property?_follows (hsub : Follows depth sub sub') :
    Follows depth (property? sub) (Parse.property? sub') := by
  have hentry : ∀ key : String, Follows depth
      (do advance; separator .property; return some (key, ← sub))
      (do Parse.advance; Parse.separator .property; return some (key, ← sub')) :=
    fun key => Follows.advance.bind fun _ => (Follows.separator .property).bind fun _ =>
      hsub.returning fun e => some (key, e)
  refine Follows.peek.bind fun l => ?_
  cases l.token with
  | text key => exact hentry key
  | identifier key => exact hentry key
  | _ => exact .pure none

theorem property?_untouched : Parse.Untouched (Parse.property? sub') := by
  have hentry : ∀ key : String, Parse.FindsSome
      (do Parse.advance; Parse.separator .property; return some (key, ← sub')) :=
    fun key => .bind fun _ => .bind fun _ => .bind fun e => .pure (key, e)
  refine .peeked fun l => ?_
  cases l.token with
  | text key => exact (hentry key).untouched
  | identifier key => exact (hentry key).untouched
  | _ => exact .nothing

end

end Reading

/-! ### Heads of functions -/

namespace Parse

/-- Reads a name, if one stands here. -/
def name? : Parse (Option String) := do
  match (← peek).token with
  | .identifier name =>
    advance
    return some name
  | _ => return none

theorem name?_identifier (name : String) (p : Nat) (ts : List Lexeme) :
    name? (⟨.identifier name, p⟩ :: ts) = .ok (some name) ts := rfl

theorem name?_of_ne {ts : List Lexeme} (h : ∀ name, (first ts).token ≠ .identifier name) :
    name? ts = .ok none ts := by
  refine (bind_of_ok (peek_apply ts)).trans ?_
  generalize (first ts).token = t at h
  cases t with
  | identifier name => exact absurd rfl (h name)
  | _ => rfl

/-- Names after a comma are read one by one, up to what is no name after a comma. -/
theorem repeats_name? (p : Nat) (ts : List Lexeme) :
    Repeats (afterComma name?) (⟨.comma, p⟩ :: ts) (names ts).1 (names ts).2 := by
  have hlt : ∀ (l k : Lexeme) (us : List Lexeme), us.length < (l :: k :: us).length :=
    fun _ _ us => Nat.lt_succ_of_lt (Nat.lt_succ_self us.length)
  fun_induction names ts generalizing p with
  | case1 name q r rest more after hnames ih =>
    have hname := (afterComma_cons name? p _).trans (name?_identifier name q (⟨.comma, r⟩ :: rest))
    rw [hnames] at ih
    exact .more hname (hlt _ _ _) (ih r)
  | case2 name q rest hcomma =>
    have hname := (afterComma_cons name? p _).trans (name?_identifier name q rest)
    refine .more hname (hlt _ _ _) (.stop (afterComma_of_ne name? fun hfirst => ?_))
    exact hcomma _ _ (eq_cons_of_first hfirst (by simp))
  | case3 rest hcomma hname =>
    refine .stopAfter ((afterComma_cons name? p rest).trans (name?_of_ne fun name hfirst => ?_))
    exact hname name _ _ (eq_cons_of_first hfirst (by simp))

/-- A list of names is read name by name. -/
theorem listOf_name? (ts : List Lexeme) : listOf name? ts = .ok (names ts).1 (names ts).2 := by
  fun_cases names ts with
  | case1 name q r rest more after hnames =>
    refine (bind_of_ok (name?_identifier name q _)).trans ?_
    have hmore := (repeats_name? r rest).many
    rw [hnames] at hmore
    exact bind_of_ok hmore
  | case2 name q rest hcomma =>
    refine (bind_of_ok (name?_identifier name q _)).trans ?_
    have hstop : afterComma name? rest = .ok none rest :=
      afterComma_of_ne name? fun hfirst => hcomma _ _ (eq_cons_of_first hfirst (by simp))
    exact bind_of_ok (Repeats.stop hstop).many
  | case3 _ _ hname =>
    refine bind_of_ok (name?_of_ne fun name hfirst => ?_)
    exact hname name _ _ (eq_cons_of_first hfirst (by simp))

theorem ifAccept_apply {α : Type} (t : Token) (p q : Parse α) (ts : List Lexeme) :
    (do if ← accept t then p else q : Parse α) ts =
      if (first ts).token = t then p (afterFirst ts) else q ts := by
  by_cases h : (first ts).token = t
  · rw [if_pos h]
    exact bind_of_ok ((accept_apply t ts).trans (if_pos h))
  · rw [if_neg h]
    exact bind_of_ok (accept_of_ne h)

variable (sub : Parse Expr)

/-- A function with the given parameters, from its body on. -/
def function (params : List String) : Parse Expr := do
  return .function params (← sub)

/-- The arrow of a function and its body, if the arrow stands here. -/
def body? (params : List String) : Parse (Option Expr) := do
  if ← accept .arrow then some <$> function sub params else pure none

/-- A function, if its whole head stands here.  Where it does not, some of it may be read. -/
def function? : Parse (Option Expr) := do
  if ← accept .openParen then
    let params ← listOf name?
    if ← accept .closeParen then body? sub params else return none
  else
    match ← name? with
    | some param => body? sub [param]
    | none => return none

theorem body?_apply (params : List String) (ts : List Lexeme) :
    body? sub params ts =
      if (first ts).token = .arrow then (some <$> function sub params) (afterFirst ts)
      else .ok none ts :=
  ifAccept_apply .arrow _ _ ts

theorem function?_openParen {ts : List Lexeme} (h : (first ts).token = .openParen) :
    function? sub ts =
      if (first (names (afterFirst ts)).2).token = .closeParen then
        body? sub (names (afterFirst ts)).1 (afterFirst (names (afterFirst ts)).2)
      else .ok none (names (afterFirst ts)).2 := by
  refine (ifAccept_apply .openParen _ _ ts).trans ?_
  rw [if_pos h]
  exact (bind_of_ok (listOf_name? (afterFirst ts))).trans (ifAccept_apply .closeParen _ _ _)

theorem function?_identifier (x : String) (p : Nat) (ts : List Lexeme) :
    function? sub (⟨.identifier x, p⟩ :: ts) = body? sub [x] ts :=
  (ifAccept_apply .openParen _ _ _).trans (bind_of_ok (name?_identifier x p ts))

theorem function?_of_ne {ts : List Lexeme} (hopen : (first ts).token ≠ .openParen)
    (hname : ∀ x, (first ts).token ≠ .identifier x) : function? sub ts = .ok none ts := by
  refine (ifAccept_apply .openParen _ _ ts).trans ?_
  rw [if_neg hopen]
  exact bind_of_ok (name?_of_ne hname)

/-- The attempt to read a function finds one exactly where the head of one stands. -/
theorem function?_cases (ts : List Lexeme) :
    (∃ params us, functionHead? ts = some (params, us) ∧
        function? sub ts = (some <$> function sub params) us) ∨
      (functionHead? ts = none ∧ ∃ us, function? sub ts = .ok none us) := by
  by_cases hopen : (first ts).token = .openParen
  · have hread := function?_openParen sub hopen
    rw [body?_apply] at hread
    have hhead : functionHead? ts =
        (afterArrow? (names (afterFirst ts)).2).map ((names (afterFirst ts)).1, ·) := by
      rw [← functionHead?_listed (first ts).position, ← eq_cons_of_first hopen (by simp)]
    rw [hhead]
    unfold afterArrow?
    by_cases hclose : (first (names (afterFirst ts)).2).token = .closeParen
    · rw [if_pos hclose] at hread
      by_cases harrow : (first (afterFirst (names (afterFirst ts)).2)).token = .arrow
      · rw [if_pos harrow] at hread
        rw [if_pos ⟨hclose, harrow⟩]
        exact .inl ⟨_, _, rfl, hread⟩
      · rw [if_neg harrow] at hread
        rw [if_neg fun h => harrow h.2]
        exact .inr ⟨rfl, _, hread⟩
    · rw [if_neg hclose] at hread
      rw [if_neg fun h => hclose h.1]
      exact .inr ⟨rfl, _, hread⟩
  · by_cases hname : ∃ x, (first ts).token = .identifier x
    · obtain ⟨x, hx⟩ := hname
      obtain ⟨p, rest, rfl⟩ : ∃ p rest, ts = ⟨.identifier x, p⟩ :: rest :=
        ⟨_, _, eq_cons_of_first hx (by simp)⟩
      have hread := function?_identifier sub x p rest
      rw [body?_apply] at hread
      by_cases harrow : (first rest).token = .arrow
      · rw [if_pos harrow] at hread
        rw [eq_cons_of_first harrow (by simp)] at hread ⊢
        exact .inl ⟨[x], _, rfl, hread⟩
      · rw [if_neg harrow] at hread
        exact .inr ⟨functionHead?_identifier x p harrow, rest, hread⟩
    · have hnone := fun x hx => hname ⟨x, hx⟩
      exact .inr ⟨functionHead?_of_ne hopen hnone, ts, function?_of_ne sub hopen hnone⟩

end Parse

/-! ### Operands -/

namespace Reading

section

variable {b c : Buffer} {depth : Nat}

/-- The first alternative that applies.  If there is none, the next token is unexpected. -/
def operandOf (attempts : List (Reading (Option Expr))) : Reading Expr := do
  match ← firstOf attempts with
  | some e => return e
  | none => unexpected .expression

variable {attempt : Reading (Option Expr)} {attempts : List (Reading (Option Expr))} {q : Parse Expr}

theorem operandOf_of_none (h : attempt b = .ok none c) (hc : b.Onward c) :
    operandOf (attempt :: attempts) b = operandOf attempts b :=
  bind_congr_left (firstOf_of_none h hc)

/-- An alternative that applies decides what is read. -/
theorem operandOf_of_outcome {ts : List Lexeme} (h : Outcome b (attempt b) ((some <$> q) ts)) :
    Outcome b (operandOf (attempt :: attempts) b) (q ts) := by
  generalize hr : attempt b = r at h
  cases hq : q ts with
  | ok e us =>
    rw [map_eq_ok.2 ⟨e, hq, rfl⟩] at h
    cases h with
    | ok hc =>
      have hread : operandOf (attempt :: attempts) b = .ok e _ := bind_of_ok (firstOf_of_some hr)
      rw [hread]
      exact .ok hc
  | error e us =>
    rw [map_of_error hq] at h
    cases h with
    | error hc =>
      have hread : operandOf (attempt :: attempts) b = .error e _ :=
        bind_of_error (firstOf_of_error hr)
      rw [hread]
      exact .error hc

variable {t : Token} {p : Reading Expr}

theorem after_of_ne (h : b.current.token ≠ t) : after t p b = .ok none b := by
  have haccept : accept t b = .ok false b := by
    show (if b.current.token = t then _ else _ : Reading Bool) b = _
    rw [if_neg h]
    rfl
  exact bind_of_ok haccept

theorem after_of_eq (h : b.current.token = t) : after t p b = (some <$> p) b.next := by
  have haccept : accept t b = .ok true b.next := by
    show (if b.current.token = t then _ else _ : Reading Bool) b = _
    rw [if_pos h]
    rfl
  exact bind_of_ok haccept

/-- An alternative that begins with another token than the next one is skipped. -/
theorem operandOf_after_of_ne (hb : b.Valid) (h : b.current.token ≠ t) :
    operandOf (after t p :: attempts) b = operandOf attempts b :=
  operandOf_of_none (after_of_ne h) hb.refl

/-- What follows a token is read if the token is the next one. -/
theorem after_outcome (hb : b.Valid) (hdepth : b.depth = depth) (ht : b.current.token = t)
    (h : Follows depth p q) : Outcome b (after t p b) ((some <$> q) (Parse.afterFirst b.rest)) := by
  rw [after_of_eq ht, ← hb.rest_next]
  exact (h.map some b.next hb.next.valid (hb.next.depth.trans hdepth)).of_onward hb.next

end

section

variable {depth : Nat} {sub bang : Reading Expr} {sub' bang' : Parse Expr}

theorem name?_follows : Follows depth name? Parse.name? := by
  refine Follows.peek.bind fun l => ?_
  cases l.token with
  | identifier name => exact Follows.advance.bind fun _ => .pure (some name)
  | _ => exact .pure none

theorem name?_untouched : Parse.Untouched Parse.name? := by
  refine .peeked fun l => ?_
  cases l.token with
  | identifier name => exact (Parse.FindsSome.bind fun _ => .pure name).untouched
  | _ => exact .nothing

theorem body?_follows (hsub : Follows depth sub sub') (params : List String) :
    Follows depth (body? sub params) (Parse.body? sub' params) :=
  .ifAccept .arrow ((hsub.returning (Expr.function params)).map some) (.pure none)

theorem function?_follows (hsub : Follows depth sub sub') :
    Follows depth (function? sub) (Parse.function? sub') := by
  refine Follows.ifAccept .openParen ?_ (name?_follows.bind fun o => ?_)
  · refine (name?_follows.listOf name?_untouched).bind fun params => ?_
    exact .ifAccept .closeParen (body?_follows hsub params) (.pure none)
  · cases o with
    | some param => exact body?_follows hsub [param]
    | none => exact .pure none

/-- The operand that is left to try once no function stands here. -/
def plainOperand (sub bang : Reading Expr) : Reading Expr :=
  operandOf [wrapped? sub, not? bang, list? sub, map? sub, term? sub]

theorem term?_apply (sub : Reading Expr) (b : Buffer) :
    term? sub b = (match b.current.token with
      | .boolean value => do advance; return some (.boolean value)
      | .number value => do advance; return some (.number value)
      | .text content => do advance; return some (.text content)
      | .identifier _ => some <$> path sub
      | _ => return none : Reading (Option Expr)) b := rfl

theorem operandOf_not?_of_ne {b : Buffer} {attempts : List (Reading (Option Expr))} (hb : b.Valid)
    (h : b.current.token ≠ .bang) :
    operandOf (not? bang :: attempts) b = operandOf attempts b :=
  operandOf_of_none (after_of_ne h) hb.refl

/-- Where no other alternative can begin, a literal or a path is tried. -/
theorem plainOperand_eq_term {b : Buffer} (hb : b.Valid)
    (h : ∀ t ∈ [Token.openParen, .bang, .openBracket, .openBrace], b.current.token ≠ t) :
    plainOperand sub bang b = operandOf [term? sub] b := by
  unfold plainOperand wrapped? list? map?
  rw [operandOf_after_of_ne hb (h _ (by simp)), operandOf_not?_of_ne hb (h _ (by simp)),
    operandOf_after_of_ne hb (h _ (by simp)), operandOf_after_of_ne hb (h _ (by simp))]

theorem plainOperand_literal {b : Buffer} (hb : b.Valid) (hdepth : b.depth = depth)
    (h : ∀ t ∈ [Token.openParen, .bang, .openBracket, .openBrace], b.current.token ≠ t) {e : Expr}
    (hread : term? sub b = (do advance; return some e : Reading (Option Expr)) b) :
    Outcome b (plainOperand sub bang b) ((do Parse.advance; return e : Parse Expr) b.rest) := by
  rw [plainOperand_eq_term hb h]
  refine operandOf_of_outcome ?_
  rw [hread]
  exact (Follows.advance.bind fun _ => .pure (some e)) b hb hdepth

theorem plainOperand_follows (hsub : Follows depth sub sub') (hbang : Follows depth bang bang') :
    Follows depth (plainOperand sub bang) (Parse.plainOperand sub' bang') := by
  intro b hb hdepth
  have hread := term?_apply sub b
  unfold Parse.plainOperand
  rw [bind_of_ok (Parse.peek_apply b.rest), ← hb.current_eq]
  generalize ht : b.current.token = t at hread
  -- the alternatives before the one that begins with this token are skipped
  cases t with
  | openParen =>
    exact operandOf_of_outcome (after_outcome hb hdepth ht (hsub.closed .wrapped Expr.wrapped))
  | bang =>
    have hnot : Follows depth
        (do if (← peek).position = b.current.position + 1 then return Expr.not (← bang)
            else throw (.detachedNot b.current.position))
        (do if (← Parse.peek).position = b.current.position + 1 then return Expr.not (← bang')
            else throw (.detachedNot b.current.position)) :=
      Follows.peek.bind fun _ => (hbang.returning Expr.not).ite (.throw _)
    have hout : Outcome b (not? bang b) _ := after_outcome hb hdepth ht hnot
    unfold plainOperand wrapped?
    rw [operandOf_after_of_ne hb (by simp [ht])]
    exact operandOf_of_outcome hout
  | openBracket =>
    have hitems := (expression?_follows hsub).listOf expression?_untouched
    unfold plainOperand wrapped? list?
    rw [operandOf_after_of_ne hb (by simp [ht]), operandOf_not?_of_ne hb (by simp [ht])]
    exact operandOf_of_outcome (after_outcome hb hdepth ht (hitems.closed .list Expr.list))
  | openBrace =>
    have hentries := (property?_follows hsub).listOf property?_untouched
    unfold plainOperand wrapped? list? map?
    rw [operandOf_after_of_ne hb (by simp [ht]), operandOf_not?_of_ne hb (by simp [ht]),
      operandOf_after_of_ne hb (by simp [ht])]
    exact operandOf_of_outcome (after_outcome hb hdepth ht (hentries.closed .map Expr.map))
  | boolean value => exact plainOperand_literal hb hdepth (by simp [ht]) hread
  | number value => exact plainOperand_literal hb hdepth (by simp [ht]) hread
  | text content => exact plainOperand_literal hb hdepth (by simp [ht]) hread
  | identifier name =>
    have hpath : Outcome b (term? sub b) ((some <$> Parse.path sub') b.rest) := by
      rw [hread]
      exact (path_follows hsub).map some b hb hdepth
    rw [plainOperand_eq_term hb (by simp [ht])]
    exact operandOf_of_outcome hpath
  | _ =>
    rw [plainOperand_eq_term hb (by simp [ht]), operandOf_of_none hread hb.refl]
    exact Follows.unexpected .expression b hb hdepth

/-- An operand of an ordered choice is the one that the next tokens decide on. -/
theorem simple_follows (hsub : Follows depth sub sub') (hbang : Follows depth bang bang') :
    Follows depth (simple sub bang) (Parse.simple sub' bang') := by
  intro b hb hdepth
  have hfunction := function?_follows hsub b hb hdepth
  obtain ⟨params, us, hhead, hread⟩ | ⟨hhead, us, hread⟩ := Parse.function?_cases sub' b.rest
  · rw [hread] at hfunction
    rw [Parse.simple_of_head hhead]
    exact operandOf_of_outcome hfunction
  · -- some names may have been read by now, and are given back
    rw [hread] at hfunction
    generalize hr : function? sub b = r at hfunction
    cases hfunction with
    | ok hc =>
      have hplain : simple sub bang b = plainOperand sub bang b := operandOf_of_none hr hc
      rw [hplain, Parse.simple_of_plain hhead]
      exact plainOperand_follows hsub hbang b hb hdepth

/-! ### Chains -/

theorem product_follows (hsub : Follows depth sub sub') (hbang : Follows depth bang bang') :
    Follows depth (product sub bang) (Parse.product sub' bang') :=
  ((simple_follows hsub hbang).chain _).bind fun
    | (x, []) => .pure x
    | (_, _ :: _) => .pure _

theorem sum_follows (hsub : Follows depth sub sub') (hbang : Follows depth bang bang') :
    Follows depth (sum sub bang) (Parse.sum sub' bang') :=
  ((product_follows hsub hbang).chain _).bind fun
    | (x, []) => .pure x
    | (_, _ :: _) => .pure _

theorem comparison_follows (hsub : Follows depth sub sub') (hbang : Follows depth bang bang') :
    Follows depth (comparison sub bang) (Parse.comparison sub' bang') := by
  have hsum := sum_follows hsub hbang
  refine hsum.bind fun left => Follows.peek.bind fun l => ?_
  cases Parse.compareOp? l.token with
  | none => exact .pure left
  | some op => exact Follows.advance.bind fun _ => hsum.returning (Expr.compare op left)

theorem conjunction_follows (hsub : Follows depth sub sub') (hbang : Follows depth bang bang') :
    Follows depth (conjunction sub bang) (Parse.conjunction sub' bang') :=
  ((comparison_follows hsub hbang).chain _).bind fun
    | (x, []) => .pure x
    | (_, _ :: _) => .pure _

theorem disjunction_follows (hsub : Follows depth sub sub') (hbang : Follows depth bang bang') :
    Follows depth (disjunction sub bang) (Parse.disjunction sub' bang') :=
  ((conjunction_follows hsub hbang).chain _).bind fun
    | (x, []) => .pure x
    | (_, _ :: _) => .pure _

theorem conditional_follows (hsub : Follows depth sub sub') (hbang : Follows depth bang bang') :
    Follows depth (conditional sub bang) (Parse.conditional sub' bang') := by
  refine (disjunction_follows hsub hbang).bind fun test => Follows.ifAccept .question ?_ (.pure test)
  exact hsub.bind fun yes => (Follows.separator .conditional).bind fun _ =>
    hsub.returning (Expr.cond test yes)

end

end Reading

end HostExpr
