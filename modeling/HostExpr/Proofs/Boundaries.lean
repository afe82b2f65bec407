import HostExpr.Proofs.Stretches

/-!
# Where tokens end

A character that belongs to no token before it cuts a text in two: what stands before it is scanned as
if the text ended there.

* `Lexer.Separates`: the characters that end each token before them, with the blank, the comma and the
  closing brackets as examples;
* `Lexer.scan_append`: a step of a scan is not changed by what follows;
* `Lexer.Terminated`: each string literal of a text is closed;
* `Lexer.stretches_append`, `Lexer.tokens_append_of_terminated`: such a text is scanned by itself;
* `endsWithOperand`: whether the last of some tokens ends an operand, which is all that scanning
  remembers of them, with `Lexer.flagAfter_eq`.
-/

namespace HostExpr

/-- Whether the last of some tokens ends an operand; no token ends none. -/
def endsWithOperand (ts : List Lexeme) : Bool :=
  ts.getLast?.any fun l => l.token.endsOperand

theorem endsWithOperand_concat (ts : List Lexeme) (l : Lexeme) :
    endsWithOperand (ts ++ [l]) = l.token.endsOperand := by
  unfold endsWithOperand
  rw [List.getLast?_concat]
  rfl

namespace Lexer

open Decimal

/-- A character that neither goes on with a word or a number, nor is the second one of a symbol. -/
structure Separates (d : Char) : Prop where
  word : Letter.continuesWord d = false
  digit : isDigit d = false
  point : d ≠ '.'
  pair : ∀ c, pairToken c d = none

/-- What may follow a token without being taken for a part of it. -/
def EndsToken (rest : List Char) : Prop :=
  ∀ d ∈ rest.head?, Separates d

theorem pairToken_eq_none {d : Char} (h : d ∉ ['>', '=', '&', '|']) (c : Char) :
    pairToken c d = none := by
  unfold pairToken
  split
  all_goals first
    | rfl
    | exact absurd (by decide) h

theorem separates_blank : Separates ' ' :=
  ⟨by decide, by decide, by decide, pairToken_eq_none (by decide)⟩

theorem separates_comma : Separates ',' :=
  ⟨by decide, by decide, by decide, pairToken_eq_none (by decide)⟩

theorem separates_closeBracket : Separates ']' :=
  ⟨by decide, by decide, by decide, pairToken_eq_none (by decide)⟩

theorem separates_closeParen : Separates ')' :=
  ⟨by decide, by decide, by decide, pairToken_eq_none (by decide)⟩

theorem endsToken_nil : EndsToken [] := by
  simp [EndsToken]

theorem endsToken_cons {d : Char} (h : Separates d) (rest : List Char) : EndsToken (d :: rest) := by
  intro e he
  obtain rfl := Option.some.inj he
  exact h

theorem EndsToken.startsWithDigit {rest : List Char} (h : EndsToken rest) :
    startsWithDigit rest = false := by
  cases rest with
  | nil => rfl
  | cons d rest => exact (h d rfl).digit

/-! ### One step -/

section

variable {rest : List Char}

/-- A run of characters does not go on in what follows, if that starts with none of them. -/
theorem span_append {p : Char → Bool} (hrest : ∀ d ∈ rest.head?, p d = false) (cs : List Char) :
    (cs ++ rest).takeWhile p = cs.takeWhile p ∧ (cs ++ rest).dropWhile p = cs.dropWhile p ++ rest := by
  induction cs with
  | nil =>
    cases rest with
    | nil => exact ⟨rfl, rfl⟩
    | cons d rest =>
      have hd : ¬ p d := ne_true_of_eq_false (hrest d rfl)
      exact ⟨List.takeWhile_cons_of_neg hd, List.dropWhile_cons_of_neg hd⟩
  | cons c cs ih =>
    by_cases hc : p c
    · rw [List.cons_append, List.takeWhile_cons_of_pos hc, List.dropWhile_cons_of_pos hc,
        List.takeWhile_cons_of_pos hc, List.dropWhile_cons_of_pos hc, ih.1]
      exact ⟨rfl, ih.2⟩
    · rw [List.cons_append, List.takeWhile_cons_of_neg hc, List.dropWhile_cons_of_neg hc,
        List.takeWhile_cons_of_neg hc, List.dropWhile_cons_of_neg hc]
      exact ⟨rfl, rfl⟩

theorem startsWithDigit_append (hrest : EndsToken rest) (cs : List Char) :
    startsWithDigit (cs ++ rest) = startsWithDigit cs := by
  cases cs with
  | nil => exact hrest.startsWithDigit
  | cons c cs => rfl

theorem fraction_append (hrest : EndsToken rest) (cs : List Char) :
    fraction (cs ++ rest) = ((fraction cs).1, (fraction cs).2 ++ rest) := by
  obtain ⟨ds, after, hne, hds, hafter, rfl, heq⟩ | ⟨heq, hpoint⟩ := fraction_cases cs
  · have hstop : startsWithDigit (after ++ rest) = false := by
      rw [startsWithDigit_append hrest, hafter]
    rw [heq, List.cons_append, List.append_assoc, fraction_point hne hds hstop]
  · rw [heq]
    obtain ⟨ds, after, hne, hds, -, hcs, -⟩ | ⟨heq', -⟩ := fraction_cases (cs ++ rest)
    · -- a point with a digit after it would stand in `cs`, or at the front of `rest`
      obtain ⟨d, ds, rfl⟩ := List.exists_cons_of_ne_nil hne
      have hd : isDigit d := hds d (by simp)
      match cs with
      | [] =>
        rw [List.nil_append] at hcs
        subst hcs
        exact absurd rfl (hrest '.' rfl).point
      | [c] =>
        obtain ⟨-, rfl⟩ := List.cons.inj hcs
        exact absurd (hd.symm.trans hrest.startsWithDigit) (by simp)
      | c :: e :: cs =>
        obtain ⟨rfl, hmore⟩ := List.cons.inj hcs
        obtain ⟨rfl, -⟩ := List.cons.inj hmore
        exact absurd (hd.symm.trans (hpoint e cs rfl)) (by simp)
    · exact heq'

theorem numeral_append (hrest : EndsToken rest) (cs : List Char) :
    numeral (cs ++ rest) = ((numeral cs).1, (numeral cs).2 ++ rest) := by
  obtain ⟨htake, hdrop⟩ := span_append (p := isDigit) (fun d hd => (hrest d hd).digit) cs
  unfold numeral
  rw [htake, hdrop, fraction_append hrest]

theorem symbol_append (hrest : EndsToken rest) (c : Char) (cs : List Char) :
    symbol c (cs ++ rest) = ((symbol c cs).1, (symbol c cs).2 ++ rest) := by
  cases cs with
  | nil =>
    cases rest with
    | nil => rfl
    | cons d rest =>
      show symbol c (d :: rest) = (singleToken c, d :: rest)
      unfold symbol
      simp only [(hrest d rfl).pair c]
  | cons d cs =>
    cases hpair : pairToken c d with
    | none => simp only [List.cons_append, symbol, hpair]
    | some t => simp only [List.cons_append, symbol, hpair]

/-- What a step finds or passes over is the same where a text goes on with something that ends each
token, unless the step looks for the end of a string literal. -/
theorem scan_append (hrest : EndsToken rest) {a : Bool} {c : Char} {cs after : List Char}
    {o : Option Token} (h : scan a c cs = (o, after)) (hclosed : o = none → ¬ IsQuote c) :
    scan a c (cs ++ rest) = (o, after ++ rest) := by
  by_cases hquote : IsQuote c
  · rw [scan_quote hquote] at h ⊢
    obtain ⟨content, written, after', rfl, hwritten, heq⟩ | hnone := quoted_cases c cs
    · rw [heq] at h
      obtain ⟨rfl, rfl⟩ := Prod.mk.inj h
      rw [List.append_assoc, List.cons_append, quoted_of_written hquote hwritten]
    · rw [hnone] at h
      exact absurd hquote (hclosed (Prod.mk.inj h).1.symm)
  by_cases hword : Letter.startsWord c
  · obtain ⟨htake, hdrop⟩ :=
      span_append (p := Letter.continuesWord) (fun d hd => (hrest d hd).word) cs
    rw [scan_word hword] at h ⊢
    obtain ⟨rfl, rfl⟩ := Prod.mk.inj h
    rw [htake, hdrop]
  by_cases hdigit : isDigit c
  · rw [scan_digit hdigit] at h ⊢
    obtain ⟨rfl, rfl⟩ := Prod.mk.inj h
    rw [← List.cons_append, numeral_append hrest]
  unfold scan at h ⊢
  rw [if_neg hquote, if_neg hword, if_neg hdigit] at h ⊢
  rw [startsWithDigit_append hrest]
  split at h
  · next hminus =>
    have hfound : ((some (.number (-(numeral cs).1)) : Option Token), (numeral cs).2) =
        (o, after) := h
    obtain ⟨rfl, rfl⟩ := Prod.mk.inj hfound
    rw [if_pos hminus, numeral_append hrest]
  · next hminus =>
    rw [if_neg hminus, symbol_append hrest, h]

end

/-! ### Whole texts -/

/-- Each string literal of a text is closed. -/
def Terminated (a : Bool) (cs : List Char) : Prop :=
  ∀ ds, .unclosed ds ∉ stretches a cs

/-- Whether a stretch is a quote that is not closed. -/
def Stretch.isUnclosed : Stretch → Bool
  | unclosed _ => true
  | _ => false

instance (a : Bool) (cs : List Char) : Decidable (Terminated a cs) :=
  decidable_of_iff (∀ s ∈ stretches a cs, s.isUnclosed = false) <| by
    constructor
    · intro h ds hds
      exact absurd (h (.unclosed ds) hds) (by simp [Stretch.isUnclosed])
    · intro h s hs
      cases s with
      | token t cs => rfl
      | passed c => rfl
      | unclosed ds => exact absurd hs (h ds)

/-- Whether the last token among some stretches ends an operand, `a` if there is no token. -/
def flagAfter (a : Bool) : List Stretch → Bool
  | [] => a
  | .token t _ :: ss => flagAfter t.endsOperand ss
  | .passed _ :: ss => flagAfter a ss
  | .unclosed _ :: ss => flagAfter a ss

theorem flagAfter_eq (a : Bool) (ss : List Stretch) (p : Nat) :
    flagAfter a ss = (placed p ss).getLast?.elim a fun l => l.token.endsOperand := by
  induction ss generalizing a p with
  | nil => rfl
  | cons s ss ih =>
    cases s with
    | token t cs =>
      rw [flagAfter, placed, List.getLast?_cons, ih t.endsOperand (p + cs.length)]
      cases (placed (p + cs.length) ss).getLast? <;> rfl
    | passed c => exact ih a _
    | unclosed cs => exact ih a _

theorem flagAfter_false (ss : List Stretch) (p : Nat) :
    flagAfter false ss = endsWithOperand (placed p ss) := by
  rw [flagAfter_eq false ss p, endsWithOperand]
  cases (placed p ss).getLast? <;> rfl

/-- A text whose literals are closed is cut into the same stretches where it goes on with something
that ends each token. -/
theorem stretches_append {rest : List Char} (hrest : EndsToken rest) (a : Bool) (cs : List Char)
    (h : Terminated a cs) :
    stretches a (cs ++ rest) = stretches a cs ++ stretches (flagAfter a (stretches a cs)) rest := by
  induction a, cs using scan_induction with
  | nil a =>
    rw [stretches]
    rfl
  | token a c ds after t hscan hspelled ih =>
    have hmore := scan_append hrest hscan (by simp)
    rw [Terminated, stretches_of_scan hscan] at h
    rw [List.append_assoc] at hmore
    rw [stretches_of_scan hscan, List.cons_append, List.append_assoc, stretches_of_scan hmore,
      ih fun ds hds => h ds (List.mem_cons_of_mem _ hds)]
    rfl
  | passed a c cs hquote hscan hnot ih =>
    have hmore := scan_append hrest hscan fun _ => hquote
    rw [Terminated, stretches_of_skip hquote hscan] at h
    rw [stretches_of_skip hquote hscan, List.cons_append, stretches_of_skip hquote hmore,
      ih fun ds hds => h ds (List.mem_cons_of_mem _ hds)]
    rfl
  | unclosed a c cs hquote hscan hnot =>
    rw [Terminated, stretches_of_unclosed hquote hscan] at h
    exact absurd (List.mem_singleton.2 rfl) (h (c :: cs))

theorem placed_append (p : Nat) (ss ss' : List Stretch) :
    placed p (ss ++ ss') = placed p ss ++ placed (p + (ss.flatMap Stretch.chars).length) ss' := by
  induction ss generalizing p with
  | nil => rfl
  | cons s ss ih =>
    rw [List.cons_append, List.flatMap_cons, List.length_append, ← Nat.add_assoc]
    cases s with
    | token t cs => exact congrArg (_ :: ·) (ih _)
    | passed c => exact ih _
    | unclosed cs => exact ih _

theorem Divides.flatMap_chars {ss : List Stretch} {cs : List Char} (h : Divides ss cs) :
    ss.flatMap Stretch.chars = cs := by
  induction h with
  | nil => rfl
  | cons _ _ ih => rw [List.flatMap_cons, ih]

/-- The tokens of a text whose literals are closed, where it goes on with something that ends each
token. -/
theorem tokens_append_of_terminated {rest : List Char} (hrest : EndsToken rest) {a : Bool}
    {cs : List Char} (h : Terminated a cs) (p : Nat) :
    tokens ⟨cs ++ rest, p, a⟩ =
      placed p (stretches a cs) ++
        tokens ⟨rest, p + cs.length, flagAfter a (stretches a cs)⟩ := by
  rw [tokens_eq_placed, stretches_append hrest a cs h, placed_append,
    (stretches_divides a cs).flatMap_chars, tokens_eq_placed, List.append_assoc, List.length_append,
    Nat.add_assoc]

end Lexer

end HostExpr
