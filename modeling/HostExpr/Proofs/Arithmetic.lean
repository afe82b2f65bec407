import HostExpr.Host.Object
import HostExpr.Proofs.Chains
import HostExpr.Proofs.Completeness
import HostExpr.Proofs.Remainder
import HostExpr.Proofs.Scanning

/-!
# Arithmetic from text to value

A tree of numbers with the operators `+`, `-`, `*`, `/` and `%`, written with parentheses only where
the precedence of the operators requires them, evaluates to the number that the operations give when
they are done from the leaves up.

* `Arithmetic`: the trees, with `Arithmetic.print`;
* `Arithmetic.HasValue`: the operations done from the leaves up, as a relation;
* `Arithmetic.expr`: the expression of a tree, whose chains are flat;
* `Written`: a text is scanned as the tokens of an expression, up to a blank or a parenthesis;
* `Arithmetic.written`, `Arithmetic.eval_expr`: the text of a tree spells its expression, and the
  expression has the value of the tree;
* `Arithmetic.evaluate_print`: every tree has a value, and its text evaluates to it in every context.
-/

namespace HostExpr

open Stateful Grammar

/-- A tree of numbers with binary operators. -/
inductive Arithmetic where
  | number (x : Float)
  | sum (op : AddOp) (left right : Arithmetic)
  | product (op : MulOp) (left right : Arithmetic)

namespace Arithmetic

/-- The values of the trees: each operation is done on the values of its two operands, from the leaves
up. -/
inductive HasValue : Arithmetic → Float → Prop
  | number (x : Float) : HasValue (.number x) x
  | add {left right : Arithmetic} {x y : Float} (hx : HasValue left x) (hy : HasValue right y) :
    HasValue (.sum .add left right) (x + y)
  | subtract {left right : Arithmetic} {x y : Float} (hx : HasValue left x) (hy : HasValue right y) :
    HasValue (.sum .subtract left right) (x - y)
  | multiply {left right : Arithmetic} {x y : Float} (hx : HasValue left x) (hy : HasValue right y) :
    HasValue (.product .multiply left right) (x * y)
  | divide {left right : Arithmetic} {x y : Float} (hx : HasValue left x) (hy : HasValue right y) :
    HasValue (.product .divide left right) (x / y)
  | modulo {left right : Arithmetic} {x y r : Float} (hx : HasValue left x) (hy : HasValue right y)
      (hr : Number.IsRemainder x y r) : HasValue (.product .modulo left right) r

/-- The numbers at the leaves of a tree. -/
def literals : Arithmetic → List Float
  | number x => [x]
  | sum _ left right => left.literals ++ right.literals
  | product _ left right => left.literals ++ right.literals

/-- The rule of the grammar that a tree is written as. -/
def rank : Arithmetic → Rank
  | number _ => .operand
  | sum _ _ _ => .sum
  | product _ _ _ => .product

/-- Whether a tree needs parentheses to stand where a phrase of the given rule is wanted. -/
def needsParens (r : Rank) (t : Arithmetic) : Bool :=
  t.rank.level < r.level

/-- A text, in parentheses if need be. -/
def enclosed (parens : Bool) (cs : List Char) : List Char :=
  if parens then '(' :: (cs ++ [')']) else cs

/-- The symbol of an operator between blanks. -/
def spaced (symbol : String) : List Char :=
  ' ' :: (symbol.toList ++ [' '])

/-- The text of a tree.  Operators of the same precedence group to the left. -/
def print : Arithmetic → List Char
  | number x => Number.plain x
  | sum op left right =>
    left.print ++ spaced op.symbol ++ enclosed (right.needsParens .product) right.print
  | product op left right =>
    enclosed (left.needsParens .product) left.print ++ spaced op.symbol ++
      enclosed (right.needsParens .operand) right.print

/-- How deep the parentheses in the text of a tree are nested. -/
def parens : Arithmetic → Nat
  | number _ => 0
  | sum _ left right => max left.parens (right.parens + (right.needsParens .product).toNat)
  | product _ left right =>
    max (left.parens + (left.needsParens .product).toNat)
      (right.parens + (right.needsParens .operand).toNat)

end Arithmetic

/-! ### Flat chains -/

namespace Expr

/-- A sum with one more operand. -/
def addTerm (l : Expr) (op : AddOp) (e : Expr) : Expr :=
  match l with
  | .sum first rest => .sum first (rest ++ [(op, e)])
  | l => .sum l [(op, e)]

/-- A product with one more operand. -/
def addFactor (l : Expr) (op : MulOp) (e : Expr) : Expr :=
  match l with
  | .product first rest => .product first (rest ++ [(op, e)])
  | l => .product l [(op, e)]

/-- An expression, in parentheses if need be. -/
def enclosed (e : Expr) (parens : Bool) : Expr :=
  if parens then .wrapped e else e

theorem addTerm_cases (l : Expr) (op : AddOp) (e : Expr) :
    (∃ first rest, l = .sum first rest ∧ l.addTerm op e = .sum first (rest ++ [(op, e)])) ∨
      l.addTerm op e = .sum l [(op, e)] := by
  unfold addTerm
  split
  · exact .inl ⟨_, _, rfl, rfl⟩
  · exact .inr rfl

theorem addFactor_cases (l : Expr) (op : MulOp) (e : Expr) :
    (∃ first rest, l = .product first rest ∧
        l.addFactor op e = .product first (rest ++ [(op, e)])) ∨
      l.addFactor op e = .product l [(op, e)] := by
  unfold addFactor
  split
  · exact .inl ⟨_, _, rfl, rfl⟩
  · exact .inr rfl

end Expr

/-- The expression of a tree. -/
def Arithmetic.expr : Arithmetic → Expr
  | number x => .number x
  | sum op left right =>
    left.expr.addTerm op (right.expr.enclosed (right.needsParens .product))
  | product op left right =>
    (left.expr.enclosed (left.needsParens .product)).addFactor op
      (right.expr.enclosed (right.needsParens .operand))

/-! ### Spelling flat chains -/

namespace Spells

variable {l e : Expr} {ts us : List Lexeme}

theorem ne_product_of_operand (h : Spells .operand l ts) (first : Expr)
    (rest : List (MulOp × Expr)) : l ≠ .product first rest := by
  rintro rfl
  cases h with
  | lift hr _ => exact hr rfl

theorem ne_sum_of_product (h : Spells .product l ts) (first : Expr)
    (rest : List (AddOp × Expr)) : l ≠ .sum first rest := by
  rintro rfl
  cases h with
  | lift _ h =>
    cases h with
    | lift hr _ => exact hr rfl

theorem run_concat {α : Type} {part : α → List Lexeme → Prop} {x : α} {xs : List α}
    (hxs : Run part xs ts) (hx : part x us) : Run part (xs ++ [x]) (ts ++ us) := by
  induction hxs with
  | nil =>
    have hrun := Run.cons hx .nil
    rw [List.append_nil] at hrun
    exact hrun
  | cons hy _ ih =>
    rw [List.append_assoc]
    exact .cons hy ih

theorem addTerm {op : AddOp} (hl : Spells .sum l ts) (he : Spells .product e us) (p : Nat) :
    Spells .sum (l.addTerm op e) (ts ++ ⟨op.token, p⟩ :: us) := by
  have hterm : Term AddOp.token (Spells .product) (op, e) (⟨op.token, p⟩ :: us) := .mk he
  cases hl with
  | lift _ hl =>
    obtain ⟨first, rest, rfl, -⟩ | heq := l.addTerm_cases op e
    · exact absurd rfl (ne_sum_of_product hl first rest)
    · rw [heq]
      exact .sum (by simp) hl (run_concat .nil hterm)
  | sum _ hfirst hrest =>
    rw [List.append_assoc]
    exact .sum (by simp) hfirst (run_concat hrest hterm)

theorem addFactor {op : MulOp} (hl : Spells .product l ts) (he : Spells .operand e us) (p : Nat) :
    Spells .product (l.addFactor op e) (ts ++ ⟨op.token, p⟩ :: us) := by
  have hterm : Term MulOp.token (Spells .operand) (op, e) (⟨op.token, p⟩ :: us) := .mk he
  cases hl with
  | lift _ hl =>
    obtain ⟨first, rest, rfl, -⟩ | heq := l.addFactor_cases op e
    · exact absurd rfl (ne_product_of_operand hl first rest)
    · rw [heq]
      exact .product (by simp) hl (run_concat .nil hterm)
  | product _ hfirst hrest =>
    rw [List.append_assoc]
    exact .product (by simp) hfirst (run_concat hrest hterm)

end Spells

/-! ### Texts of expressions -/

/-- What may follow the text of an operand: nothing, a blank or a closing parenthesis. -/
def EndsText (rest : List Char) : Prop :=
  ∀ c ∈ rest.head?, c = ' ' ∨ c = ')'

theorem EndsText.endsNumeral {rest : List Char} (h : EndsText rest) : Decimal.EndsNumeral rest := by
  cases rest with
  | nil => exact ⟨rfl, by simp⟩
  | cons c rest =>
    obtain rfl | rfl := h c rfl
    · exact ⟨rfl, by simp⟩
    · exact ⟨rfl, by simp⟩

/-- A text is scanned as tokens that spell an expression as a rule of the grammar, where no operand
stands before it and an end of the text follows. -/
def Written (r : Rank) (e : Expr) (cs : List Char) : Prop :=
  ∀ (p : Nat) (rest : List Char), EndsText rest → ∃ ts q,
    Lexer.tokens ⟨cs ++ rest, p, false⟩ = ts ++ Lexer.tokens ⟨rest, q, true⟩ ∧ Spells r e ts

namespace Written

variable {r : Rank} {l e : Expr} {cs ds : List Char}

theorem number {x : Float} (h : Number.read? (Number.plain x) = some x) :
    Written .operand (.number x) (Number.plain x) := by
  intro p rest hrest
  refine ⟨[⟨.number x, p⟩], p + (Number.plain x).length, ?_, .number⟩
  rw [Lexer.tokens_plain h hrest.endsNumeral]
  rfl

theorem lift (hr : r ≠ .operand) (h : Written r.tighter e cs) : Written r e cs := by
  intro p rest hrest
  obtain ⟨ts, q, htokens, hspells⟩ := h p rest hrest
  exact ⟨ts, q, htokens, .lift hr hspells⟩

theorem wrapped (h : Written .sum e cs) : Written .operand (.wrapped e) ('(' :: (cs ++ [')'])) := by
  intro p rest hrest
  have hclose : EndsText (')' :: rest) := by
    intro c hc
    exact .inr (Option.some.inj hc).symm
  obtain ⟨ts, q, htokens, hspells⟩ := h (p + 1) (')' :: rest) hclose
  refine ⟨_, q + 1, ?_, .wrapped (p := p) (q := q) hspells.expression_of_sum⟩
  rw [List.cons_append, List.append_assoc, List.singleton_append, Lexer.tokens_openParen, htokens,
    Lexer.tokens_closeParen, List.cons_append, List.append_assoc]
  rfl

/-- Two texts with an operator between them, if the operator is scanned as the token `t` and the
tokens together spell `e'`. -/
theorem operator {s : Rank} {e' : Expr} (hl : Written r l cs) (he : Written s e ds) (c : Char)
    (t : Token) (ht : t.endsOperand = false)
    (hscan : ∀ rest, Lexer.scan true c (' ' :: rest) = (some t, ' ' :: rest))
    (hspells : ∀ ts us p, Spells r l ts → Spells s e us → Spells r e' (ts ++ ⟨t, p⟩ :: us)) :
    Written r e' (cs ++ [' ', c, ' '] ++ ds) := by
  intro p rest hrest
  have hblank : EndsText (' ' :: c :: ' ' :: (ds ++ rest)) := by
    intro d hd
    exact .inl (Option.some.inj hd).symm
  obtain ⟨ts, q, hleft, hts⟩ := hl p _ hblank
  obtain ⟨us, q', hright, hus⟩ := he (q + 3) rest hrest
  refine ⟨_, q', ?_, hspells ts us (q + 1) hts hus⟩
  rw [List.append_assoc, List.append_assoc, List.cons_append, List.cons_append,
    List.singleton_append, hleft, Lexer.tokens_operator ht (hscan _), hright, List.append_assoc]
  rfl

theorem addTerm (op : AddOp) (hl : Written .sum l cs) (he : Written .product e ds) :
    Written .sum (l.addTerm op e) (cs ++ Arithmetic.spaced op.symbol ++ ds) := by
  cases op with
  | add =>
    refine hl.operator he '+' .plus rfl (fun _ => rfl) ?_
    intro ts us p hts hus
    exact hts.addTerm hus p
  | subtract =>
    refine hl.operator he '-' .minus rfl (fun _ => rfl) ?_
    intro ts us p hts hus
    exact hts.addTerm hus p

theorem addFactor (op : MulOp) (hl : Written .product l cs) (he : Written .operand e ds) :
    Written .product (l.addFactor op e) (cs ++ Arithmetic.spaced op.symbol ++ ds) := by
  cases op with
  | multiply =>
    refine hl.operator he '*' .star rfl (fun _ => rfl) ?_
    intro ts us p hts hus
    exact hts.addFactor hus p
  | divide =>
    refine hl.operator he '/' .slash rfl (fun _ => rfl) ?_
    intro ts us p hts hus
    exact hts.addFactor hus p
  | modulo =>
    refine hl.operator he '%' .percent rfl (fun _ => rfl) ?_
    intro ts us p hts hus
    exact hts.addFactor hus p

end Written

namespace Arithmetic

/-- The text of a tree is also a text of each looser rule of chains. -/
theorem written_sum {t : Arithmetic} {e : Expr} {cs : List Char} (h : Written t.rank e cs) :
    Written .sum e cs := by
  cases t with
  | number => exact .lift (by simp) (.lift (by simp [Rank.tighter]) h)
  | sum => exact h
  | product => exact .lift (by simp) h

theorem written_enclosed_product {t : Arithmetic} {e : Expr} {cs : List Char}
    (h : Written t.rank e cs) :
    Written .product (e.enclosed (t.needsParens .product))
      (enclosed (t.needsParens .product) cs) := by
  cases t with
  | number => exact .lift (by simp) h
  | sum => exact .lift (by simp) (Written.wrapped h)
  | product => exact h

theorem written_enclosed_operand {t : Arithmetic} {e : Expr} {cs : List Char}
    (h : Written t.rank e cs) :
    Written .operand (e.enclosed (t.needsParens .operand))
      (enclosed (t.needsParens .operand) cs) := by
  cases t with
  | number => exact h
  | sum => exact Written.wrapped h
  | product => exact Written.wrapped (.lift (by simp) h)

/-- The text of a tree spells its expression. -/
theorem written (t : Arithmetic)
    (h : ∀ x ∈ t.literals, Number.read? (Number.plain x) = some x) :
    Written t.rank t.expr t.print := by
  induction t with
  | number x => exact Written.number (h x (by simp [literals]))
  | sum op left right ihLeft ihRight =>
    obtain ⟨hleft, hright⟩ := List.forall_mem_append.1 h
    exact (written_sum (ihLeft hleft)).addTerm op (written_enclosed_product (ihRight hright))
  | product op left right ihLeft ihRight =>
    obtain ⟨hleft, hright⟩ := List.forall_mem_append.1 h
    exact (written_enclosed_product (ihLeft hleft)).addFactor op
      (written_enclosed_operand (ihRight hright))

end Arithmetic

/-! ### Nesting and functions -/

namespace Expr

variable {l e : Expr} {n : Nat}

/-- A chain with one more operand has no more levels than its operands. -/
theorem depth_chain_le {α : Type} {first : Nat} {levels : α → Nat} {xs : List α} {x : α}
    (hchain : max first (highest (xs.map levels)) ≤ n) (hx : levels x ≤ n) :
    max first (highest ((xs ++ [x]).map levels)) ≤ n := by
  rw [Nat.max_le, highest_le, List.forall_mem_map] at hchain ⊢
  exact ⟨hchain.1, List.forall_mem_append.2 ⟨hchain.2, List.forall_mem_singleton.2 hx⟩⟩

/-- The same for a chain of two operands. -/
theorem depth_pair_le {first second : Nat} (hfirst : first ≤ n) (hsecond : second ≤ n) :
    max first (highest [second]) ≤ n := by
  rw [Nat.max_le, highest_le, List.forall_mem_singleton]
  exact ⟨hfirst, hsecond⟩

theorem depth_addTerm_le {op : AddOp} (hl : l.depth ≤ n) (he : e.depth ≤ n) :
    (l.addTerm op e).depth ≤ n := by
  obtain ⟨first, rest, rfl, heq⟩ | heq := l.addTerm_cases op e
  · rw [depth] at hl
    rw [heq, depth]
    exact depth_chain_le hl he
  · rw [heq, depth]
    exact depth_pair_le hl he

theorem depth_addFactor_le {op : MulOp} (hl : l.depth ≤ n) (he : e.depth ≤ n) :
    (l.addFactor op e).depth ≤ n := by
  obtain ⟨first, rest, rfl, heq⟩ | heq := l.addFactor_cases op e
  · rw [depth] at hl
    rw [heq, depth]
    exact depth_chain_le hl he
  · rw [heq, depth]
    exact depth_pair_le hl he

theorem depth_enclosed (e : Expr) (parens : Bool) :
    (e.enclosed parens).depth = e.depth + parens.toNat := by
  cases parens with
  | false => rfl
  | true =>
    show (Expr.wrapped e).depth = _
    rw [depth]
    rfl

/-- An expression whose functions stand last wherever it is used. -/
def ArrowsLast (e : Expr) : Prop :=
  ∀ last, e.arrowsLast last

/-- A chain passes with one more operand if it passes without it, as one that does not stand
last. -/
theorem lastPasses_concat {tests : List (Bool → Bool)} {test : Bool → Bool} {last : Bool}
    (htests : lastPasses tests false) (htest : test last) : lastPasses (tests ++ [test]) last := by
  induction tests with
  | nil => exact lastPasses_singleton.2 htest
  | cons first tests ih =>
    have hmore : (tests ++ [test]).isEmpty = false := by cases tests <;> rfl
    rw [lastPasses_cons, Bool.false_and] at htests
    rw [List.cons_append, lastPasses_cons, hmore, Bool.and_false]
    exact ⟨htests.1, ih htests.2⟩

theorem arrowsLast_addTerm {op : AddOp} (hl : l.ArrowsLast) (he : e.ArrowsLast) :
    (l.addTerm op e).ArrowsLast := by
  intro last
  obtain ⟨first, rest, rfl, heq⟩ | heq := l.addTerm_cases op e
  · have htests := hl false
    rw [arrowsLast] at htests
    rw [heq, arrowsLast, List.map_append]
    exact lastPasses_concat htests (he last)
  · rw [heq, arrowsLast]
    exact lastPasses_concat (lastPasses_singleton.2 (hl false)) (he last)

theorem arrowsLast_addFactor {op : MulOp} (hl : l.ArrowsLast) (he : e.ArrowsLast) :
    (l.addFactor op e).ArrowsLast := by
  intro last
  obtain ⟨first, rest, rfl, heq⟩ | heq := l.addFactor_cases op e
  · have htests := hl false
    rw [arrowsLast] at htests
    rw [heq, arrowsLast, List.map_append]
    exact lastPasses_concat htests (he last)
  · rw [heq, arrowsLast]
    exact lastPasses_concat (lastPasses_singleton.2 (hl false)) (he last)

theorem arrowsLast_enclosed (he : e.ArrowsLast) (parens : Bool) :
    (e.enclosed parens).ArrowsLast := by
  intro last
  cases parens with
  | false => exact he last
  | true =>
    show (Expr.wrapped e).arrowsLast last
    rw [arrowsLast]
    exact he true

end Expr

namespace Arithmetic

theorem depth_expr_le (t : Arithmetic) : t.expr.depth ≤ t.parens := by
  induction t with
  | number x => simp [expr, Expr.depth]
  | sum op left right ihLeft ihRight =>
    refine Expr.depth_addTerm_le (Nat.le_trans ihLeft (Nat.le_max_left _ _)) ?_
    rw [Expr.depth_enclosed]
    exact Nat.le_trans (Nat.add_le_add_right ihRight _) (Nat.le_max_right _ _)
  | product op left right ihLeft ihRight =>
    refine Expr.depth_addFactor_le ?_ ?_
    · rw [Expr.depth_enclosed]
      exact Nat.le_trans (Nat.add_le_add_right ihLeft _) (Nat.le_max_left _ _)
    · rw [Expr.depth_enclosed]
      exact Nat.le_trans (Nat.add_le_add_right ihRight _) (Nat.le_max_right _ _)

theorem arrowsLast_expr (t : Arithmetic) : t.expr.ArrowsLast := by
  induction t with
  | number x =>
    intro last
    show (Expr.number x).arrowsLast last
    rw [Expr.arrowsLast]
  | sum op left right ihLeft ihRight =>
    exact Expr.arrowsLast_addTerm ihLeft (Expr.arrowsLast_enclosed ihRight _)
  | product op left right ihLeft ihRight =>
    exact Expr.arrowsLast_addFactor (Expr.arrowsLast_enclosed ihLeft _)
      (Expr.arrowsLast_enclosed ihRight _)

end Arithmetic

/-! ### Values -/

section

variable {W : Type} (hosts : HostInterface W) (root : Value) {s s' : W}

variable {l e : Expr} {x y : Float}

theorem evalSum_add (he : e.eval hosts root s = .ok (.number y) s) :
    evalSum hosts root (.total x) [(.add, e)] s = .ok (.total (x + y)) s :=
  bind_of_ok he

theorem evalSum_subtract (he : e.eval hosts root s = .ok (.number y) s) :
    evalSum hosts root (.total x) [(.subtract, e)] s = .ok (.total (x - y)) s :=
  bind_of_ok he

theorem evalProduct_multiply (he : e.eval hosts root s = .ok (.number y) s) :
    evalProduct hosts root x [(.multiply, e)] s = .ok (x * y) s :=
  bind_of_ok he

theorem evalProduct_divide (he : e.eval hosts root s = .ok (.number y) s) :
    evalProduct hosts root x [(.divide, e)] s = .ok (x / y) s :=
  bind_of_ok he

theorem evalProduct_modulo {r : Float} (he : e.eval hosts root s = .ok (.number y) s)
    (hr : Number.IsRemainder x y r) : evalProduct hosts root x [(.modulo, e)] s = .ok r s := by
  obtain rfl := Number.remainder_eq_iff.2 hr
  exact bind_of_ok he

/-- A sum that is a number so far, with one more operand. -/
theorem eval_addTerm {op : AddOp} (hl : l.eval hosts root s = .ok (.number x) s)
    (he : evalSum hosts root (.total x) [(op, e)] s = .ok (.total y) s) :
    (l.addTerm op e).eval hosts root s = .ok (.number y) s := by
  obtain ⟨first, rest, rfl, heq⟩ | heq := l.addTerm_cases op e
  · rw [heq, Expr.eval_sum_append]
    refine (bind_of_ok hl).trans ?_
    exact bind_of_ok he
  · rw [heq, Expr.eval]
    refine (bind_of_ok hl).trans ?_
    exact bind_of_ok he

/-- A product of numbers, with one more factor. -/
theorem eval_addFactor {op : MulOp} (hl : l.eval hosts root s = .ok (.number x) s)
    (he : evalProduct hosts root x [(op, e)] s = .ok y s) :
    (l.addFactor op e).eval hosts root s = .ok (.number y) s := by
  obtain ⟨first, rest, rfl, heq⟩ | heq := l.addFactor_cases op e
  · rw [heq, Expr.eval_product_append]
    refine (bind_of_ok hl).trans ?_
    exact bind_of_ok he
  · rw [heq, Expr.eval]
    refine (bind_of_ok hl).trans ?_
    exact bind_of_ok he

theorem eval_enclosed (parens : Bool) (he : e.eval hosts root s = .ok (.number y) s) :
    (e.enclosed parens).eval hosts root s = .ok (.number y) s := by
  cases parens with
  | false => exact he
  | true => exact he

namespace Arithmetic

/-- The expression of a tree evaluates to the value of the tree. -/
theorem eval_expr {t : Arithmetic} (h : t.HasValue x) :
    t.expr.eval hosts root s = .ok (.number x) s := by
  induction h with
  | number x => rfl
  | add _ _ ihLeft ihRight =>
    exact eval_addTerm hosts root ihLeft (evalSum_add hosts root (eval_enclosed hosts root _ ihRight))
  | subtract _ _ ihLeft ihRight =>
    exact eval_addTerm hosts root ihLeft
      (evalSum_subtract hosts root (eval_enclosed hosts root _ ihRight))
  | multiply _ _ ihLeft ihRight =>
    exact eval_addFactor hosts root (eval_enclosed hosts root _ ihLeft)
      (evalProduct_multiply hosts root (eval_enclosed hosts root _ ihRight))
  | divide _ _ ihLeft ihRight =>
    exact eval_addFactor hosts root (eval_enclosed hosts root _ ihLeft)
      (evalProduct_divide hosts root (eval_enclosed hosts root _ ihRight))
  | modulo _ _ hr ihLeft ihRight =>
    exact eval_addFactor hosts root (eval_enclosed hosts root _ ihLeft)
      (evalProduct_modulo hosts root (eval_enclosed hosts root _ ihRight) hr)

theorem exists_hasValue (t : Arithmetic) : ∃ r, t.HasValue r := by
  induction t with
  | number x => exact ⟨x, .number x⟩
  | sum op left right ihLeft ihRight =>
    obtain ⟨x, hx⟩ := ihLeft
    obtain ⟨y, hy⟩ := ihRight
    cases op with
    | add => exact ⟨_, .add hx hy⟩
    | subtract => exact ⟨_, .subtract hx hy⟩
  | product op left right ihLeft ihRight =>
    obtain ⟨x, hx⟩ := ihLeft
    obtain ⟨y, hy⟩ := ihRight
    cases op with
    | multiply => exact ⟨_, .multiply hx hy⟩
    | divide => exact ⟨_, .divide hx hy⟩
    | modulo => exact ⟨_, .modulo hx hy (Number.remainder_eq_iff.1 rfl)⟩

end Arithmetic

end

/-! ### Whole texts -/

/-- A text that is written as a sum is read as its expression. -/
theorem parse_of_written {e : Expr} {cs : List Char} (h : Written .sum e cs)
    (harrows : e.ArrowsLast) (hnesting : e.nesting ≤ maxNesting) :
    parse (String.ofList cs) = .ok e := by
  obtain ⟨ts, q, htokens, hspells⟩ := h 0 [] (by simp [EndsText])
  rw [List.append_nil, Lexer.tokens_nil] at htokens
  unfold parse Parser.ofSource tokenize
  rw [String.toList_ofList, htokens]
  exact Parser.input_of_spells hspells.expression_of_sum (harrows true) hnesting q

namespace Arithmetic

/-- **Arithmetic from text to value.**  A tree of finite numbers whose texts read back has a value, and its
text evaluates to that value in every context and leaves the host objects alone. -/
theorem evaluate_print {W : Type} (hosts : HostInterface W) (context : Context) (state : W)
    (t : Arithmetic)
    (hread : ∀ x ∈ t.literals, x.isFinite ∧ Number.read? (Number.plain x) = some x)
    (hparens : t.parens < maxNesting) :
    (∃ r, t.HasValue r) ∧ ∀ r, t.HasValue r →
      evaluate hosts context (String.ofList t.print) state = (.ok (.number r), state) := by
  refine ⟨t.exists_hasValue, ?_⟩
  intro r hr
  have hwritten := t.written fun x hx => (hread x hx).2
  have hnesting : t.expr.nesting ≤ maxNesting :=
    Nat.le_trans (Nat.succ_le_succ t.depth_expr_le) hparens
  have hparse := parse_of_written (written_sum hwritten) t.arrowsLast_expr hnesting
  unfold evaluate Expr.run
  rw [hparse]
  simp only [eval_expr hosts context.root hr]
  rfl

/-- A text with the operators that group and those that do not, in a context without names. -/
theorem evaluate_print_nested :
    evaluate (HostTable.interface (σ := Unit)) .empty "7 % (6 / 2) - -0.5 * 3 + 1" ⟨[]⟩ =
      (.ok (.number 3.5), ⟨[]⟩) := by
  let t : Arithmetic :=
    .sum .add
      (.sum .subtract
        (.product .modulo (.number 7.0) (.product .divide (.number 6.0) (.number 2.0)))
        (.product .multiply (.number (-0.5)) (.number 3.0)))
      (.number 1.0)
  have hprint : String.ofList t.print = "7 % (6 / 2) - -0.5 * 3 + 1" := by decide +kernel
  have hremainder : Number.IsRemainder 7.0 (6.0 / 2.0) 1.0 :=
    Number.remainder_eq_iff.1 (by decide +kernel)
  have htotal : (1.0 - -0.5 * 3.0 + 1.0 : Float) = 3.5 := by decide +kernel
  have hvalue : t.HasValue 3.5 := by
    rw [← htotal]
    exact .add
      (.subtract (.modulo (.number _) (.divide (.number _) (.number _)) hremainder)
        (.multiply (.number _) (.number _)))
      (.number _)
  rw [← hprint]
  refine (evaluate_print _ _ _ t ?_ (by decide)).2 _ hvalue
  intro x hx
  have hcases : x = 7.0 ∨ x = 6.0 ∨ x = 2.0 ∨ x = -0.5 ∨ x = 3.0 ∨ x = 1.0 := by
    simpa [t, literals] using hx
  rcases hcases with rfl | rfl | rfl | rfl | rfl | rfl
  all_goals decide +kernel

end Arithmetic

end HostExpr
