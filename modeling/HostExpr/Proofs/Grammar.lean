import HostExpr.Parser

/-!
# The grammar as a relation

What the grammar of expressions says about trees and tokens, without a parser.

* `Rank`: the rules of the grammar, from the loosest to the tightest;
* `CompareOp.token`, `AddOp.token`, `MulOp.token`: the tokens that the operators are written as;
* `Grammar.Run`, `Grammar.Listed`: parts one after another, and items with commas;
* `Spells`: the token sequences that spell a tree as a given rule;
* `Grammatical`: the trees of a given rule;
* `Expr.nesting`, `Expr.arrowsLast`: how deep a tree is, and whether its functions stand last.

A tree leaves open how it is spelled: the key of a map is a text or an identifier, a single
parameter stands with or without parentheses, and the last item of a list may have a comma after
it.  All other tokens are those of the tree.  Their offsets are free, except that the token after a
`!` stands right after it.
-/

namespace HostExpr

/-! ### Ranks -/

/-- The rules of the grammar, from the loosest to the tightest. -/
inductive Rank where
  | expression
  | disjunction
  | conjunction
  | comparison
  | sum
  | product
  | operand
  deriving DecidableEq, Repr

/-- The rule for the parts of a chain of the given rule. -/
def Rank.tighter : Rank → Rank
  | expression => disjunction
  | disjunction => conjunction
  | conjunction => comparison
  | comparison => sum
  | sum => product
  | product => operand
  | operand => operand

/-! ### Operators -/

/-- The token of a comparison. -/
def CompareOp.token : CompareOp → Token
  | equal => .equal
  | notEqual => .notEqual
  | less => .less
  | lessEqual => .lessEqual
  | greater => .greater
  | greaterEqual => .greaterEqual

/-- The token of an operator of a sum. -/
def AddOp.token : AddOp → Token
  | add => .plus
  | subtract => .minus

/-- The token of an operator of a product. -/
def MulOp.token : MulOp → Token
  | multiply => .star
  | divide => .slash
  | modulo => .percent

namespace Grammar

variable {α ω : Type}

/-! ### Repetition -/

/-- Parts one after another. -/
inductive Run (part : α → List Lexeme → Prop) : List α → List Lexeme → Prop
  | nil : Run part [] []
  | cons {x : α} {xs : List α} {ts us : List Lexeme} :
      part x ts → Run part xs us → Run part (x :: xs) (ts ++ us)

/-- Items with a comma after each of them, which the last item may do without. -/
inductive Listed (item : α → List Lexeme → Prop) : List α → List Lexeme → Prop
  | nil : Listed item [] []
  | last {x : α} {ts : List Lexeme} : item x ts → Listed item [x] ts
  | cons {x : α} {xs : List α} {ts us : List Lexeme} {p : Nat} :
      item x ts → Listed item xs us → Listed item (x :: xs) (ts ++ ⟨.comma, p⟩ :: us)

/-- An operator and the operand after it. -/
inductive Term (token : ω → Token) (operand : α → List Lexeme → Prop) :
    ω × α → List Lexeme → Prop
  | mk {op : ω} {x : α} {p : Nat} {ts : List Lexeme} :
      operand x ts → Term token operand (op, x) (⟨token op, p⟩ :: ts)

/-! ### Parts of operands -/

/-- A name. -/
inductive Named : String → List Lexeme → Prop
  | mk {x : String} {p : Nat} : Named x [⟨.identifier x, p⟩]

/-- The parameters of a function. -/
inductive Params : List String → List Lexeme → Prop
  | bare {x : String} {p : Nat} : Params [x] [⟨.identifier x, p⟩]
  | listed {xs : List String} {ts : List Lexeme} {p q : Nat} :
      Listed Named xs ts → Params xs (⟨.openParen, p⟩ :: (ts ++ [⟨.closeParen, q⟩]))

/-- An entry of a map. -/
inductive Property (value : Expr → List Lexeme → Prop) : String × Expr → List Lexeme → Prop
  | text {key : String} {e : Expr} {p q : Nat} {ts : List Lexeme} :
      value e ts → Property value (key, e) (⟨.text key, p⟩ :: ⟨.colon, q⟩ :: ts)
  | identifier {key : String} {e : Expr} {p q : Nat} {ts : List Lexeme} :
      value e ts → Property value (key, e) (⟨.identifier key, p⟩ :: ⟨.colon, q⟩ :: ts)

/-- A named step of a path. -/
inductive Step (arg : Expr → List Lexeme → Prop) : Segment → List Lexeme → Prop
  | name {x : String} {p : Nat} : Step arg (.name x) [⟨.identifier x, p⟩]
  | call {x : String} {args : List Expr} {p q r : Nat} {ts : List Lexeme} :
      Listed arg args ts →
      Step arg (.call x args)
        (⟨.identifier x, p⟩ :: ⟨.openParen, q⟩ :: (ts ++ [⟨.closeParen, r⟩]))

/-- A step of a path after the first one. -/
inductive Further (arg : Expr → List Lexeme → Prop) : Segment → List Lexeme → Prop
  | member {s : Segment} {p : Nat} {ts : List Lexeme} :
      Step arg s ts → Further arg s (⟨.dot, p⟩ :: ts)
  | key {e : Expr} {p q : Nat} {ts : List Lexeme} :
      arg e ts → Further arg (.key e) (⟨.openBracket, p⟩ :: (ts ++ [⟨.closeBracket, q⟩]))

end Grammar

/-! ### Spelling -/

open Grammar

/-- The tokens that spell a tree as a rule of the grammar.  What is spelled as a tighter rule is
also spelled as each looser one. -/
inductive Spells : Rank → Expr → List Lexeme → Prop
  | lift {r : Rank} {e : Expr} {ts : List Lexeme} :
      r ≠ .operand → Spells r.tighter e ts → Spells r e ts
  | cond {test yes no : Expr} {ts us vs : List Lexeme} {p q : Nat} :
      Spells .disjunction test ts → Spells .expression yes us → Spells .expression no vs →
      Spells .expression (.cond test yes no)
        (ts ++ ⟨.question, p⟩ :: (us ++ ⟨.colon, q⟩ :: vs))
  | any {first : Expr} {rest : List Expr} {ops : List (Unit × Expr)} {ts us : List Lexeme} :
      rest = ops.map Prod.snd → rest ≠ [] → Spells .conjunction first ts →
      Run (Term (fun _ => .or) (Spells .conjunction)) ops us →
      Spells .disjunction (.any first rest) (ts ++ us)
  | all {first : Expr} {rest : List Expr} {ops : List (Unit × Expr)} {ts us : List Lexeme} :
      rest = ops.map Prod.snd → rest ≠ [] → Spells .comparison first ts →
      Run (Term (fun _ => .and) (Spells .comparison)) ops us →
      Spells .conjunction (.all first rest) (ts ++ us)
  | compare {op : CompareOp} {left right : Expr} {p : Nat} {ts us : List Lexeme} :
      Spells .sum left ts → Spells .sum right us →
      Spells .comparison (.compare op left right) (ts ++ ⟨op.token, p⟩ :: us)
  | sum {first : Expr} {rest : List (AddOp × Expr)} {ts us : List Lexeme} :
      rest ≠ [] → Spells .product first ts → Run (Term AddOp.token (Spells .product)) rest us →
      Spells .sum (.sum first rest) (ts ++ us)
  | product {first : Expr} {rest : List (MulOp × Expr)} {ts us : List Lexeme} :
      rest ≠ [] → Spells .operand first ts → Run (Term MulOp.token (Spells .operand)) rest us →
      Spells .product (.product first rest) (ts ++ us)
  | function {params : List String} {body : Expr} {ts us : List Lexeme} {p : Nat} :
      Params params ts → Spells .expression body us →
      Spells .operand (.function params body) (ts ++ ⟨.arrow, p⟩ :: us)
  | wrapped {inner : Expr} {ts : List Lexeme} {p q : Nat} :
      Spells .expression inner ts →
      Spells .operand (.wrapped inner) (⟨.openParen, p⟩ :: (ts ++ [⟨.closeParen, q⟩]))
  | not {operand : Expr} {ts : List Lexeme} {t : Token} {p : Nat} :
      Spells .operand operand (⟨t, p + 1⟩ :: ts) →
      Spells .operand (.not operand) (⟨.bang, p⟩ :: ⟨t, p + 1⟩ :: ts)
  | list {items : List Expr} {ts : List Lexeme} {p q : Nat} :
      Listed (Spells .expression) items ts →
      Spells .operand (.list items) (⟨.openBracket, p⟩ :: (ts ++ [⟨.closeBracket, q⟩]))
  | map {entries : List (String × Expr)} {ts : List Lexeme} {p q : Nat} :
      Listed (Property (Spells .expression)) entries ts →
      Spells .operand (.map entries) (⟨.openBrace, p⟩ :: (ts ++ [⟨.closeBrace, q⟩]))
  | boolean {b : Bool} {p : Nat} : Spells .operand (.boolean b) [⟨.boolean b, p⟩]
  | number {x : Float} {p : Nat} : Spells .operand (.number x) [⟨.number x, p⟩]
  | text {s : String} {p : Nat} : Spells .operand (.text s) [⟨.text s, p⟩]
  | path {head : Segment} {rest : List Segment} {ts us : List Lexeme} :
      Step (Spells .expression) head ts → Run (Further (Spells .expression)) rest us →
      Spells .operand (.path (head :: rest)) (ts ++ us)

theorem Spells.expression_of_sum {e : Expr} {ts : List Lexeme} (h : Spells .sum e ts) :
    Spells .expression e ts := by
  have hcomparison : Spells .comparison e ts := .lift (by simp) h
  have hconjunction : Spells .conjunction e ts := .lift (by simp) hcomparison
  have hdisjunction : Spells .disjunction e ts := .lift (by simp) hconjunction
  exact .lift (by simp) hdisjunction

theorem Spells.expression_of_operand {e : Expr} {ts : List Lexeme} (h : Spells .operand e ts) :
    Spells .expression e ts := by
  have hproduct : Spells .product e ts := .lift (by simp) h
  have hsum : Spells .sum e ts := .lift (by simp) hproduct
  exact hsum.expression_of_sum

/-- What is spelled starts with a token that can start an expression. -/
theorem Spells.starts {r : Rank} {e : Expr} {ts : List Lexeme} (h : Spells r e ts) :
    ∃ t p us, ts = ⟨t, p⟩ :: us ∧ Parse.startsExpression t := by
  match h with
  | .lift _ h => exact h.starts
  | .cond h _ _ | .any _ _ h _ | .all _ _ h _ | .compare h _ | .sum _ h _ | .product _ h _ =>
    obtain ⟨t, p, us, rfl, ht⟩ := h.starts
    exact ⟨t, p, _, rfl, ht⟩
  | .function h _ =>
    cases h with
    | bare => exact ⟨_, _, _, rfl, rfl⟩
    | listed => exact ⟨_, _, _, rfl, rfl⟩
  | .path h _ =>
    cases h with
    | name => exact ⟨_, _, _, rfl, rfl⟩
    | call => exact ⟨_, _, _, rfl, rfl⟩
  | .wrapped _ | .not _ | .list _ | .map _ | .boolean | .number | .text =>
    exact ⟨_, _, _, rfl, rfl⟩

theorem Spells.ne_nil {r : Rank} {e : Expr} {ts : List Lexeme} (h : Spells r e ts) : ts ≠ [] := by
  obtain ⟨t, p, us, rfl, -⟩ := h.starts
  simp

/-- A name at the front of the tokens has neither a comma nor a closing parenthesis after it. -/
def AfterName (ts : List Lexeme) : Prop :=
  ∀ x p l us, ts = ⟨.identifier x, p⟩ :: l :: us → l.token ≠ .comma ∧ l.token ≠ .closeParen

theorem AfterName.append {ts us : List Lexeme} (hts : ts ≠ []) (h : AfterName ts)
    (hus : ∀ l vs, us = l :: vs → l.token ≠ .comma ∧ l.token ≠ .closeParen) :
    AfterName (ts ++ us) := by
  intro x p l vs heq
  match ts, hts with
  | [a], _ => exact hus l vs (List.cons.inj heq).2
  | a :: b :: ts, _ =>
    obtain ⟨ha, hb⟩ := List.cons.inj heq
    obtain ⟨rfl, -⟩ := List.cons.inj hb
    exact h x p b ts (ha ▸ rfl)

/-- What stands after the first operand of a chain starts with an operator. -/
theorem Grammar.Run.starts {α ω : Type} {token : ω → Token} {operand : α → List Lexeme → Prop}
    {ops : List (ω × α)} {l : Lexeme} {ts : List Lexeme}
    (h : Run (Term token operand) ops (l :: ts)) : ∃ op, l.token = token op := by
  generalize hus : l :: ts = us at h
  cases h with
  | nil => exact absurd hus (by simp)
  | cons hx _ =>
    cases hx with
    | @mk op =>
      obtain ⟨rfl, -⟩ := List.cons.inj hus
      exact ⟨op, rfl⟩

theorem AfterName.append_run {α ω : Type} {token : ω → Token}
    {operand : α → List Lexeme → Prop} {ops : List (ω × α)} {ts us : List Lexeme} (hts : ts ≠ [])
    (h : AfterName ts) (hrun : Run (Term token operand) ops us)
    (htoken : ∀ op, token op ≠ .comma ∧ token op ≠ .closeParen) : AfterName (ts ++ us) := by
  refine h.append hts fun l vs heq => ?_
  rw [heq] at hrun
  obtain ⟨op, hop⟩ := hrun.starts
  rw [hop]
  exact htoken op

theorem CompareOp.token_ne (op : CompareOp) : op.token ≠ .comma ∧ op.token ≠ .closeParen := by
  cases op <;> simp [token]

theorem AddOp.token_ne (op : AddOp) : op.token ≠ .comma ∧ op.token ≠ .closeParen := by
  cases op <;> simp [token]

theorem MulOp.token_ne (op : MulOp) : op.token ≠ .comma ∧ op.token ≠ .closeParen := by
  cases op <;> simp [token]

/-- What is spelled cannot be taken for the parameters of a function: a name at its front is all of
it, or the token after the name is neither a comma nor a closing parenthesis. -/
theorem Spells.afterName {r : Rank} {e : Expr} {ts : List Lexeme} (h : Spells r e ts) :
    AfterName ts := by
  match h with
  | .lift _ h => exact h.afterName
  | .cond h _ _ => exact h.afterName.append h.ne_nil (by simp)
  | .any _ _ h hrun => exact h.afterName.append_run h.ne_nil hrun (by simp)
  | .all _ _ h hrun => exact h.afterName.append_run h.ne_nil hrun (by simp)
  | .compare h _ =>
    refine h.afterName.append h.ne_nil ?_
    rintro l vs ⟨⟩
    exact CompareOp.token_ne _
  | .sum _ h hrun => exact h.afterName.append_run h.ne_nil hrun AddOp.token_ne
  | .product _ h hrun => exact h.afterName.append_run h.ne_nil hrun MulOp.token_ne
  | .function hparams _ =>
    cases hparams with
    | bare =>
      rintro x p l us ⟨⟩
      simp
    | listed => simp [AfterName]
  | .path hstep hrun =>
    rintro x p l us heq
    cases hstep with
    | name =>
      obtain ⟨-, hus⟩ := List.cons.inj heq
      cases hrun with
      | nil => exact absurd hus (by simp)
      | cons hx _ =>
        cases hx with
        | member =>
          obtain ⟨rfl, -⟩ := List.cons.inj hus
          simp
        | key =>
          obtain ⟨rfl, -⟩ := List.cons.inj hus
          simp
    | call =>
      obtain ⟨-, hus⟩ := List.cons.inj heq
      obtain ⟨rfl, -⟩ := List.cons.inj hus
      simp
  | .wrapped _ | .not _ | .list _ | .map _ | .boolean | .number | .text =>
    simp [AfterName]

/-! ### Trees -/

/-- The expressions inside a step of a path. -/
def Segment.args : Segment → List Expr
  | .name _ => []
  | .key offset => [offset]
  | .call _ args => args

/-- Whether a step has a name of its own, so that a path can start with it. -/
def Segment.isNamed : Segment → Bool
  | .key _ => false
  | _ => true

/-- The trees of a rule of the grammar.  A chain has at least two operands, each of them of the
tighter rule, and a path starts with a named step. -/
inductive Grammatical : Rank → Expr → Prop
  | lift {r : Rank} {e : Expr} : r ≠ .operand → Grammatical r.tighter e → Grammatical r e
  | cond {test yes no : Expr} :
      Grammatical .disjunction test → Grammatical .expression yes → Grammatical .expression no →
      Grammatical .expression (.cond test yes no)
  | any {first : Expr} {rest : List Expr} :
      rest ≠ [] → Grammatical .conjunction first → (∀ e ∈ rest, Grammatical .conjunction e) →
      Grammatical .disjunction (.any first rest)
  | all {first : Expr} {rest : List Expr} :
      rest ≠ [] → Grammatical .comparison first → (∀ e ∈ rest, Grammatical .comparison e) →
      Grammatical .conjunction (.all first rest)
  | compare {op : CompareOp} {left right : Expr} :
      Grammatical .sum left → Grammatical .sum right →
      Grammatical .comparison (.compare op left right)
  | sum {first : Expr} {rest : List (AddOp × Expr)} :
      rest ≠ [] → Grammatical .product first → (∀ t ∈ rest, Grammatical .product t.2) →
      Grammatical .sum (.sum first rest)
  | product {first : Expr} {rest : List (MulOp × Expr)} :
      rest ≠ [] → Grammatical .operand first → (∀ t ∈ rest, Grammatical .operand t.2) →
      Grammatical .product (.product first rest)
  | function {params : List String} {body : Expr} :
      Grammatical .expression body → Grammatical .operand (.function params body)
  | wrapped {inner : Expr} :
      Grammatical .expression inner → Grammatical .operand (.wrapped inner)
  | not {operand : Expr} : Grammatical .operand operand → Grammatical .operand (.not operand)
  | list {items : List Expr} :
      (∀ e ∈ items, Grammatical .expression e) → Grammatical .operand (.list items)
  | map {entries : List (String × Expr)} :
      (∀ t ∈ entries, Grammatical .expression t.2) → Grammatical .operand (.map entries)
  | boolean {b : Bool} : Grammatical .operand (.boolean b)
  | number {x : Float} : Grammatical .operand (.number x)
  | text {s : String} : Grammatical .operand (.text s)
  | path {head : Segment} {rest : List Segment} :
      head.isNamed → (∀ s ∈ head :: rest, ∀ e ∈ s.args, Grammatical .expression e) →
      Grammatical .operand (.path (head :: rest))

theorem Grammatical.expression_of_sum {e : Expr} (h : Grammatical .sum e) :
    Grammatical .expression e := by
  have hcomparison : Grammatical .comparison e := .lift (by simp) h
  have hconjunction : Grammatical .conjunction e := .lift (by simp) hcomparison
  have hdisjunction : Grammatical .disjunction e := .lift (by simp) hconjunction
  exact .lift (by simp) hdisjunction

theorem Grammatical.expression_of_operand {e : Expr} (h : Grammatical .operand e) :
    Grammatical .expression e := by
  have hproduct : Grammatical .product e := .lift (by simp) h
  have hsum : Grammatical .sum e := .lift (by simp) hproduct
  exact hsum.expression_of_sum

/-- The largest of some numbers, zero for none. -/
def highest (ns : List Nat) : Nat :=
  ns.foldr max 0

theorem highest_le {ns : List Nat} {m : Nat} : highest ns ≤ m ↔ ∀ n ∈ ns, n ≤ m := by
  induction ns with
  | nil => simp [highest]
  | cons n ns ih =>
    rw [List.forall_mem_cons, ← ih]
    exact Nat.max_le

theorem sizeOf_snd_lt_of_mem {α β : Type} [SizeOf α] [SizeOf β] {x : α × β} {xs : List (α × β)}
    (h : x ∈ xs) : sizeOf x.2 < sizeOf xs := by
  have hx := List.sizeOf_lt_of_mem h
  obtain ⟨a, b⟩ := x
  rw [Prod.mk.sizeOf_spec] at hx
  show sizeOf b < sizeOf xs
  omega

mutual

/-- The levels of nesting inside an expression: one for each expression within another and one for
each operand of a `!`, along the deepest branch. -/
def Expr.depth : Expr → Nat
  | .cond test yes no => max test.depth (max yes.depth no.depth + 1)
  | .any first rest => max first.depth (highest (rest.map Expr.depth))
  | .all first rest => max first.depth (highest (rest.map Expr.depth))
  | .compare _ left right => max left.depth right.depth
  | .sum first rest => max first.depth (highest (rest.map fun t => t.2.depth))
  | .product first rest => max first.depth (highest (rest.map fun t => t.2.depth))
  | .function _ body => body.depth + 1
  | .wrapped inner => inner.depth + 1
  | .not operand => operand.depth + 1
  | .list items => highest (items.map fun e => e.depth + 1)
  | .map entries => highest (entries.map fun t => t.2.depth + 1)
  | .boolean _ => 0
  | .number _ => 0
  | .text _ => 0
  | .path segments => highest (segments.map Segment.depth)
  termination_by e => sizeOf e
  decreasing_by
    all_goals simp_wf
    all_goals first
      | omega
      | have := List.sizeOf_lt_of_mem ‹_ ∈ _›; omega
      | have := sizeOf_snd_lt_of_mem ‹_ ∈ _›; omega

/-- The levels of nesting inside a step of a path. -/
def Segment.depth : Segment → Nat
  | .name _ => 0
  | .key offset => offset.depth + 1
  | .call _ args => highest (args.map fun e => e.depth + 1)
  termination_by s => sizeOf s

end

/-- The levels of nesting of an expression, its own level included. -/
def Expr.nesting (e : Expr) : Nat :=
  e.depth + 1

namespace Expr

theorem depth_list_lt {items : List Expr} {n : Nat} :
    (list items).depth < n + 1 ↔ ∀ e ∈ items, e.depth < n := by
  rw [depth, Nat.lt_succ_iff, highest_le, List.forall_mem_map]
  rfl

theorem depth_map_lt {entries : List (String × Expr)} {n : Nat} :
    (map entries).depth < n + 1 ↔ ∀ t ∈ entries, t.2.depth < n := by
  rw [depth, Nat.lt_succ_iff, highest_le, List.forall_mem_map]
  rfl

theorem depth_path_lt {segments : List Segment} {n : Nat} :
    (path segments).depth < n + 1 ↔ ∀ s ∈ segments, ∀ e ∈ s.args, e.depth < n := by
  have hsegment : ∀ s : Segment, s.depth ≤ n ↔ ∀ e ∈ s.args, e.depth < n := by
    intro s
    cases s with
    | name x => simp [Segment.depth, Segment.args]
    | key offset =>
      rw [Segment.depth]
      exact (List.forall_mem_singleton (p := fun e : Expr => e.depth < n)).symm
    | call method args =>
      rw [Segment.depth, highest_le, List.forall_mem_map]
      rfl
  rw [depth, Nat.lt_succ_iff, highest_le, List.forall_mem_map]
  exact ⟨fun h s hs => (hsegment s).1 (h s hs), fun h s hs => (hsegment s).2 (h s hs)⟩

end Expr

/-- Whether all parts of a chain pass a test, which is told of each part whether it stands last. -/
def lastPasses : List (Bool → Bool) → Bool → Bool
  | [], _ => true
  | test :: tests, last => test (last && tests.isEmpty) && lastPasses tests last

theorem lastPasses_cons {test : Bool → Bool} {tests : List (Bool → Bool)} {last : Bool} :
    lastPasses (test :: tests) last ↔ test (last && tests.isEmpty) ∧ lastPasses tests last := by
  rw [lastPasses, Bool.and_eq_true]

theorem lastPasses_singleton {test : Bool → Bool} {last : Bool} :
    lastPasses [test] last ↔ test last := by
  rw [lastPasses_cons, List.isEmpty_nil, Bool.and_true]
  exact and_iff_left rfl

mutual

/-- Whether every function in an expression is the last operand of the expression that it belongs
to, and not part of a condition.  `last` tells whether nothing follows of the enclosing one. -/
def Expr.arrowsLast : Expr → Bool → Bool
  | .cond test yes no => fun _ =>
    test.arrowsLast false && yes.arrowsLast true && no.arrowsLast true
  | .any first rest => lastPasses (first.arrowsLast :: rest.map Expr.arrowsLast)
  | .all first rest => lastPasses (first.arrowsLast :: rest.map Expr.arrowsLast)
  | .compare _ left right => lastPasses [left.arrowsLast, right.arrowsLast]
  | .sum first rest => lastPasses (first.arrowsLast :: rest.map fun t => t.2.arrowsLast)
  | .product first rest => lastPasses (first.arrowsLast :: rest.map fun t => t.2.arrowsLast)
  | .function _ body => fun last => last && body.arrowsLast true
  | .wrapped inner => fun _ => inner.arrowsLast true
  | .not operand => operand.arrowsLast
  | .list items => fun _ => (items.map fun e => e.arrowsLast true).all id
  | .map entries => fun _ => (entries.map fun t => t.2.arrowsLast true).all id
  | .boolean _ => fun _ => true
  | .number _ => fun _ => true
  | .text _ => fun _ => true
  | .path segments => fun _ => (segments.map Segment.arrowsLast).all id
  termination_by e => sizeOf e
  decreasing_by
    all_goals simp_wf
    all_goals first
      | omega
      | have := List.sizeOf_lt_of_mem ‹_ ∈ _›; omega
      | have := sizeOf_snd_lt_of_mem ‹_ ∈ _›; omega

/-- Whether every function inside a step of a path is the last operand of its expression. -/
def Segment.arrowsLast : Segment → Bool
  | .name _ => true
  | .key offset => offset.arrowsLast true
  | .call _ args => (args.map fun e => e.arrowsLast true).all id
  termination_by s => sizeOf s

end

namespace Expr

theorem arrowsLast_list {items : List Expr} {last : Bool} :
    (list items).arrowsLast last ↔ ∀ e ∈ items, e.arrowsLast true := by
  rw [arrowsLast, List.all_eq_true, List.forall_mem_map]
  rfl

theorem arrowsLast_map {entries : List (String × Expr)} {last : Bool} :
    (map entries).arrowsLast last ↔ ∀ t ∈ entries, t.2.arrowsLast true := by
  rw [arrowsLast, List.all_eq_true, List.forall_mem_map]
  rfl

theorem arrowsLast_path {segments : List Segment} {last : Bool} :
    (path segments).arrowsLast last ↔ ∀ s ∈ segments, ∀ e ∈ s.args, e.arrowsLast true := by
  have hsegment : ∀ s : Segment, s.arrowsLast ↔ ∀ e ∈ s.args, e.arrowsLast true := by
    intro s
    cases s with
    | name x => simp [Segment.arrowsLast, Segment.args]
    | key offset => simp [Segment.arrowsLast, Segment.args]
    | call method args =>
      rw [Segment.arrowsLast, List.all_eq_true, List.forall_mem_map]
      rfl
  rw [arrowsLast, List.all_eq_true, List.forall_mem_map]
  exact ⟨fun h s hs => (hsegment s).1 (h s hs), fun h s hs => (hsegment s).2 (h s hs)⟩

end Expr

end HostExpr
