import HostExpr.Proofs.Grammar
import HostExpr.Proofs.Stateful

/-!
# Running a reading

How the computations that read tokens run, for proofs that follow a reading step by step.

* `Parse.accept_of_eq`, `Parse.accept_eq_true`, `Parse.accept_eq_false`: a token that may follow;
* `Parse.Recognises`: the operators are found at the tokens that the grammar has for them;
* `Parse.afterComma`, `Parse.term`: the steps that lists and chains repeat;
* `Parse.chainTree`: what the four rules for chains have in common;
* `Parse.Reads`: the tokens that a reading has used up, none of which is the end of the text.
-/

namespace HostExpr.Parse

open Stateful

variable {α : Type}

/-! ### Tokens -/

theorem peek_apply (ts : List Lexeme) : peek ts = .ok (first ts) ts := rfl

theorem peek_eq_ok {l : Lexeme} {ts rest : List Lexeme} (h : peek ts = .ok l rest) :
    l = first ts ∧ rest = ts := by
  injection h with hl hrest
  exact ⟨hl.symm, hrest.symm⟩

theorem advance_apply (ts : List Lexeme) : advance ts = .ok () (afterFirst ts) := rfl

theorem advance_eq_ok {u : Unit} {ts rest : List Lexeme} (h : advance ts = .ok u rest) :
    rest = afterFirst ts := by
  injection h with _ hrest
  exact hrest.symm

theorem afterFirst_cons {l : Lexeme} (h : l.token ≠ .eof) (ts : List Lexeme) :
    afterFirst (l :: ts) = ts :=
  if_neg h

/-- Tokens whose first one is not the end of the text begin with it. -/
theorem eq_first_cons {ts : List Lexeme} (h : (first ts).token ≠ .eof) :
    ts = first ts :: afterFirst ts := by
  cases ts with
  | nil => exact absurd rfl h
  | cons l ts => exact congrArg (l :: ·) (afterFirst_cons h ts).symm

theorem eq_cons_of_first {t : Token} {ts : List Lexeme} (ht : (first ts).token = t)
    (hne : t ≠ .eof) : ts = ⟨t, (first ts).position⟩ :: afterFirst ts := by
  subst ht
  exact eq_first_cons hne

theorem accept_apply (t : Token) (ts : List Lexeme) :
    accept t ts = if (first ts).token = t then .ok true (afterFirst ts) else .ok false ts := by
  show (if (first ts).token = t then _ else _ : Parse Bool) ts = _
  split <;> rfl

theorem accept_of_eq {t : Token} (ht : t ≠ .eof) (p : Nat) (ts : List Lexeme) :
    accept t (⟨t, p⟩ :: ts) = .ok true ts := by
  have hfirst : (first (⟨t, p⟩ :: ts)).token = t := rfl
  rw [accept_apply, if_pos hfirst, afterFirst_cons ht]

theorem accept_of_ne {t : Token} {ts : List Lexeme} (h : (first ts).token ≠ t) :
    accept t ts = .ok false ts := by
  rw [accept_apply, if_neg h]

theorem accept_eq_true {t : Token} (ht : t ≠ .eof) {ts rest : List Lexeme}
    (h : accept t ts = .ok true rest) : ∃ p, ts = ⟨t, p⟩ :: rest := by
  rw [accept_apply] at h
  split at h
  · next heq =>
    injection h with _ hrest
    exact ⟨(first ts).position, hrest ▸ eq_cons_of_first heq ht⟩
  · injection h with hb
    exact absurd hb (by decide)

theorem accept_eq_false {t : Token} {ts rest : List Lexeme} (h : accept t ts = .ok false rest) :
    rest = ts ∧ (first ts).token ≠ t := by
  rw [accept_apply] at h
  split at h
  · injection h with hb
    exact absurd hb (by decide)
  · next hne =>
    injection h with _ hrest
    exact ⟨hrest.symm, hne⟩

theorem closing_ne_eof (c : Bracketed) : c.closing ≠ .eof := by
  cases c <;> decide

theorem close_eq_ok {c : Bracketed} {ts rest : List Lexeme} {u : Unit}
    (h : close c ts = .ok u rest) : ∃ p, ts = ⟨c.closing, p⟩ :: rest := by
  obtain ⟨b, us, hb, h⟩ := bind_eq_ok.1 h
  cases b with
  | true =>
    obtain ⟨_, rfl⟩ := pure_eq_ok.1 h
    exact accept_eq_true (closing_ne_eof c) hb
  | false =>
    obtain ⟨l, vs, _, h⟩ := bind_eq_ok.1 h
    exact absurd h throw_ne_ok

theorem close_apply (c : Bracketed) (p : Nat) (ts : List Lexeme) :
    close c (⟨c.closing, p⟩ :: ts) = .ok () ts := by
  exact bind_of_ok (accept_of_eq (closing_ne_eof c) p ts)

theorem separator_eq_ok {c : Separated} {ts rest : List Lexeme} {u : Unit}
    (h : separator c ts = .ok u rest) : ∃ p, ts = ⟨.colon, p⟩ :: rest := by
  obtain ⟨b, us, hb, h⟩ := bind_eq_ok.1 h
  cases b with
  | true =>
    obtain ⟨_, rfl⟩ := pure_eq_ok.1 h
    exact accept_eq_true (by decide) hb
  | false =>
    obtain ⟨l, vs, _, h⟩ := bind_eq_ok.1 h
    exact absurd h throw_ne_ok

theorem separator_apply (c : Separated) (p : Nat) (ts : List Lexeme) :
    separator c (⟨.colon, p⟩ :: ts) = .ok () ts :=
  bind_of_ok (accept_of_eq (by decide) p ts)

theorem advance_cons {l : Lexeme} (h : l.token ≠ .eof) (ts : List Lexeme) :
    advance (l :: ts) = .ok () ts := by
  rw [advance_apply, afterFirst_cons h]

/-! ### Operators -/

/-- A table finds each operator at its token, and finds no other operator there or elsewhere. -/
def Recognises {ω : Type} (op? : Token → Option ω) (token : ω → Token) : Prop :=
  ∀ t op, op? t = some op ↔ t = token op

theorem recognises_orOp? : Recognises orOp? fun _ => .or := by
  intro t op
  cases t <;> simp [orOp?]

theorem recognises_andOp? : Recognises andOp? fun _ => .and := by
  intro t op
  cases t <;> simp [andOp?]

theorem recognises_compareOp? : Recognises compareOp? CompareOp.token := by
  intro t op
  cases op <;> cases t <;> simp [compareOp?, CompareOp.token]

theorem recognises_addOp? : Recognises addOp? AddOp.token := by
  intro t op
  cases op <;> cases t <;> simp [addOp?, AddOp.token]

theorem recognises_mulOp? : Recognises mulOp? MulOp.token := by
  intro t op
  cases op <;> cases t <;> simp [mulOp?, MulOp.token]

/-! ### Steps that are repeated -/

/-- An item of a list after a comma, if a comma follows. -/
def afterComma (item : Parse (Option α)) : Parse (Option α) := do
  if ← accept .comma then item else pure none

theorem afterComma_cons (item : Parse (Option α)) (p : Nat) (ts : List Lexeme) :
    afterComma item (⟨.comma, p⟩ :: ts) = item ts :=
  bind_of_ok (accept_of_eq (by decide) p ts)

theorem afterComma_of_ne (item : Parse (Option α)) {ts : List Lexeme}
    (h : (first ts).token ≠ .comma) : afterComma item ts = .ok none ts :=
  bind_of_ok (accept_of_ne h)

section

variable {ω : Type}

/-- An operator and the operand after it, if an operator follows. -/
def term (op? : Token → Option ω) (operand : Parse α) : Parse (Option (ω × α)) := do
  match op? (← peek).token with
  | none => pure none
  | some op =>
    advance
    return some (op, ← operand)

theorem chain_eq (op? : Token → Option ω) (operand : Parse α) :
    chain op? operand = (do
      let x ← operand
      let rest ← many (term op? operand)
      return (x, rest)) := rfl

theorem term_of_none {op? : Token → Option ω} (operand : Parse α) {ts : List Lexeme}
    (h : op? (first ts).token = none) : term op? operand ts = .ok none ts := by
  refine (bind_of_ok (peek_apply ts)).trans ?_
  rw [h]
  rfl

theorem term_of_some {op? : Token → Option ω} (operand : Parse α) {op : ω} {ts : List Lexeme}
    (h : op? (first ts).token = some op) :
    term op? operand ts =
      (do return some (op, ← operand) : Parse (Option (ω × α))) (afterFirst ts) := by
  refine (bind_of_ok (peek_apply ts)).trans ?_
  rw [h]
  exact bind_of_ok (advance_apply ts)

/-! ### Chains -/

/-- The tree of a chain: a node of its own, or its only operand. -/
def collapse (node : Expr → List (ω × Expr) → Expr) : Expr × List (ω × Expr) → Expr
  | (x, []) => x
  | (x, op :: ops) => node x (op :: ops)

/-- Reads the tree of a chain. -/
def chainTree (node : Expr → List (ω × Expr) → Expr) (op? : Token → Option ω)
    (operand : Parse Expr) : Parse Expr := do
  return collapse node (← chain op? operand)

variable (sub bang : Parse Expr)

theorem product_eq : product sub bang = chainTree .product mulOp? (simple sub bang) :=
  congrArg (chain mulOp? (simple sub bang) >>= ·) (funext fun ⟨_, ops⟩ => by cases ops <;> rfl)

theorem sum_eq : sum sub bang = chainTree .sum addOp? (product sub bang) :=
  congrArg (chain addOp? (product sub bang) >>= ·) (funext fun ⟨_, ops⟩ => by cases ops <;> rfl)

/-- A comparison after its left operand, or that operand alone. -/
def compared (left : Expr) : Parse Expr := do
  match compareOp? (← peek).token with
  | none => return left
  | some op =>
    advance
    return .compare op left (← sum sub bang)

theorem comparison_eq : comparison sub bang = sum sub bang >>= compared sub bang := rfl

theorem compared_of_none (left : Expr) {ts : List Lexeme}
    (h : compareOp? (first ts).token = none) : compared sub bang left ts = .ok left ts := by
  refine (bind_of_ok (peek_apply ts)).trans ?_
  rw [h]
  rfl

theorem compared_of_some (left : Expr) {op : CompareOp} {ts : List Lexeme}
    (h : compareOp? (first ts).token = some op) :
    compared sub bang left ts =
      (do return .compare op left (← sum sub bang) : Parse Expr) (afterFirst ts) := by
  refine (bind_of_ok (peek_apply ts)).trans ?_
  rw [h]
  exact bind_of_ok (advance_apply ts)

theorem conjunction_eq :
    conjunction sub bang =
      chainTree (fun x ops => .all x (ops.map Prod.snd)) andOp? (comparison sub bang) :=
  congrArg (chain andOp? (comparison sub bang) >>= ·)
    (funext fun ⟨_, ops⟩ => by cases ops <;> rfl)

theorem disjunction_eq :
    disjunction sub bang =
      chainTree (fun x ops => .any x (ops.map Prod.snd)) orOp? (conjunction sub bang) :=
  congrArg (chain orOp? (conjunction sub bang) >>= ·)
    (funext fun ⟨_, ops⟩ => by cases ops <;> rfl)

end

/-! ### Paths -/

/-- A step of a path after its name. -/
def named (sub : Parse Expr) (x : String) : Parse Segment := do
  if ← accept .openParen then
    let args ← listOf (expression? sub)
    close .arguments
    return .call x args
  else
    return .name x

theorem step_identifier (sub : Parse Expr) (x : String) (p : Nat) (ts : List Lexeme) :
    step sub (⟨.identifier x, p⟩ :: ts) = named sub x ts := rfl

/-! ### What has been read -/

/-- The tokens `used` have been read from `ts`, up to `rest`, and the end of the text is not among
them. -/
def Reads (ts used rest : List Lexeme) : Prop :=
  ts = used ++ rest ∧ ∀ l ∈ used, l.token ≠ .eof

namespace Reads

variable {ts us used more mid rest : List Lexeme} {l : Lexeme}

theorem nil : Reads ts [] ts :=
  ⟨rfl, by simp⟩

theorem cons (hl : l.token ≠ .eof) (h : Reads ts used rest) : Reads (l :: ts) (l :: used) rest := by
  obtain ⟨rfl, hused⟩ := h
  exact ⟨rfl, List.forall_mem_cons.2 ⟨hl, hused⟩⟩

theorem append (h : Reads ts used mid) (hmore : Reads mid more rest) :
    Reads ts (used ++ more) rest := by
  obtain ⟨rfl, hused⟩ := h
  obtain ⟨rfl, hmore⟩ := hmore
  exact ⟨(List.append_assoc ..).symm, List.forall_mem_append.2 ⟨hused, hmore⟩⟩

theorem one (hl : l.token ≠ .eof) : Reads (l :: ts) [l] ts :=
  nil.cons hl

theorem concat (h : Reads ts used (l :: rest)) (hl : l.token ≠ .eof) :
    Reads ts (used ++ [l]) rest :=
  h.append (one hl)

end Reads

end HostExpr.Parse

namespace HostExpr.Parser

variable {α : Type} {reading : Parse α} {parser : Parser}

/-! ### Runs of a parser -/

theorem exists_of_run {x : α} (h : (parser.run reading).1 = .ok x) :
    ∃ rest, reading parser.rest = .ok x rest := by
  unfold run at h
  split at h
  · next y rest hy =>
    obtain rfl : y = x := Except.ok.inj h
    exact ⟨rest, hy⟩
  · exact absurd h (by simp)

theorem exists_of_run_error {e : ParseError} (h : (parser.run reading).1 = .error e) :
    ∃ rest, reading parser.rest = .error e rest := by
  unfold run at h
  split at h
  · exact absurd h (by simp)
  · next f rest hf =>
    obtain rfl : f = e := Except.error.inj h
    exact ⟨rest, hf⟩

theorem run_of_error {e : ParseError} {rest : List Lexeme}
    (h : reading parser.rest = .error e rest) : parser.run reading = (.error e, ⟨rest⟩) := by
  unfold run
  rw [h]

theorem run_congr {reading' : Parse α} (h : reading parser.rest = reading' parser.rest) :
    parser.run reading = parser.run reading' := by
  unfold run
  rw [h]

end HostExpr.Parser
