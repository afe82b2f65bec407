import HostExpr.Proofs.OperandEnds
import HostExpr.Proofs.ReadNumbers
import HostExpr.Proofs.TokenPrinting

/-!
# Minus signs

A minus sign belongs to a number if a digit follows it and the token before it ends no operand, and is
an operator everywhere else.  The tokens that end an operand are those with which the operands of the
grammar end (`Token.endsOperand_iff`), so what is spelled is never followed by a number with a sign.

* `Lexer.Scans`: the lexers that scanning a text comes to, with the tokens found before;
* `Lexer.Scans.tokenize_eq`, `Lexer.Scans.afterOperand_eq`: what has been found, and what is remembered
  of it, at each of them;
* `Lexer.exists_scans`: each token of a text is found at one of them;
* `Lexer.scan_sign`, `Lexer.sign_of_isNegative`: the only step that finds a number with a sign;
* `tokenize_signs`: where a minus sign of a text belongs.
-/

namespace HostExpr

namespace Lexer

/-! ### The lexers that a scan comes to -/

/-- The lexers that scanning a text comes to, with the tokens found before. -/
inductive Scans (source : String) : List Lexeme → Lexer → Prop
  | start : Scans source [] ⟨source.toList, 0, false⟩
  | token {ts : List Lexeme} {c : Char} {cs rest : List Char} {p : Nat} {a : Bool} {t : Token} :
      Scans source ts ⟨c :: cs, p, a⟩ → scan a c cs = (some t, rest) →
      Scans source (ts ++ [⟨t, p⟩]) ⟨rest, p + (cs.length + 1 - rest.length), t.endsOperand⟩
  | passed {ts : List Lexeme} {c : Char} {cs rest : List Char} {p : Nat} {a : Bool} :
      Scans source ts ⟨c :: cs, p, a⟩ → scan a c cs = (none, rest) →
      Scans source ts ⟨rest, p + (cs.length + 1 - rest.length), a⟩

/-- What a step of a scan gives back stands at the end of the text that it was given. -/
theorem drop_scan {a : Bool} {c : Char} {cs rest : List Char} {o : Option Token}
    (h : scan a c cs = (o, rest)) : (c :: cs).drop (cs.length + 1 - rest.length) = rest := by
  have hsuffix : ∃ ds, cs = ds ++ rest := by
    obtain ⟨t, ds, after, hcs, hscan, -⟩ | ⟨-, hscan, -⟩ | ⟨-, hscan, -⟩ := scan_cases a c cs
    · obtain ⟨-, rfl⟩ := Prod.mk.inj (hscan.symm.trans h)
      exact ⟨ds, hcs⟩
    · obtain ⟨-, rfl⟩ := Prod.mk.inj (hscan.symm.trans h)
      exact ⟨[], rfl⟩
    · obtain ⟨-, rfl⟩ := Prod.mk.inj (hscan.symm.trans h)
      exact ⟨cs, (List.append_nil cs).symm⟩
  obtain ⟨ds, rfl⟩ := hsuffix
  have hlength : (ds ++ rest).length + 1 - rest.length = (c :: ds).length := by
    rw [List.length_append, List.length_cons]
    omega
  rw [hlength, ← List.cons_append, List.drop_left]

namespace Scans

variable {source : String} {ts : List Lexeme} {lexer : Lexer}

/-- What is left stands in the text at the offset of the lexer. -/
theorem rest_eq (h : Scans source ts lexer) : source.toList.drop lexer.position = lexer.rest := by
  induction h with
  | start => rfl
  | token _ hscan ih => rw [← List.drop_drop, ih, drop_scan hscan]
  | passed _ hscan ih => rw [← List.drop_drop, ih, drop_scan hscan]

/-- The tokens of a text are those found before a lexer, and those that the lexer finds. -/
theorem tokenize_eq (h : Scans source ts lexer) : tokenize source = ts ++ lexer.tokens := by
  induction h with
  | start => rfl
  | token _ hscan ih => rw [ih, tokens_of_scan hscan, List.append_assoc, List.singleton_append]
  | passed _ hscan ih => rw [ih, tokens_of_skip hscan]

/-- A lexer remembers whether the last token found ends an operand, whatever has been passed over
since. -/
theorem afterOperand_eq (h : Scans source ts lexer) : lexer.afterOperand = endsWithOperand ts := by
  induction h with
  | start => rfl
  | token _ _ _ => exact (endsWithOperand_concat _ ⟨_, _⟩).symm
  | passed _ _ ih => exact ih

end Scans

/-- Each token that a lexer finds is found at a lexer that the scan comes to. -/
theorem exists_scans_of_tokens {source : String} {found ts us : List Lexeme} {l : Lexeme} {a : Bool}
    {cs : List Char} {p : Nat} (h : Scans source found ⟨cs, p, a⟩)
    (htokens : tokens ⟨cs, p, a⟩ = ts ++ l :: us) (hne : l.token ≠ .eof) :
    ∃ c ds b rest, Scans source (found ++ ts) ⟨c :: ds, l.position, b⟩ ∧
      scan b c ds = (some l.token, rest) := by
  induction a, cs using scan_induction generalizing found ts p with
  | nil a =>
    rw [tokens_nil, List.singleton_eq_append_iff] at htokens
    obtain ⟨-, hl⟩ | ⟨-, hl⟩ := htokens
    · obtain ⟨rfl, -⟩ := List.cons.inj hl
      exact absurd rfl hne
    · exact absurd hl (by simp)
  | token a c ds rest t hscan _ ih =>
    rw [tokens_of_scan hscan] at htokens
    cases ts with
    | nil =>
      obtain ⟨rfl, -⟩ := List.cons.inj htokens
      rw [List.append_nil]
      exact ⟨c, _, a, rest, h, hscan⟩
    | cons m ts =>
      rw [List.cons_append] at htokens
      obtain ⟨rfl, hafter⟩ := List.cons.inj htokens
      have hlater := ih (h.token hscan) hafter
      rw [List.append_assoc, List.singleton_append] at hlater
      exact hlater
  | passed a c cs _ hscan _ ih =>
    rw [tokens_of_skip hscan] at htokens
    exact ih (h.passed hscan) htokens
  | unclosed a c cs _ hscan _ =>
    rw [tokens_of_skip hscan, tokens_nil, List.singleton_eq_append_iff] at htokens
    obtain ⟨-, hl⟩ | ⟨-, hl⟩ := htokens
    · obtain ⟨rfl, -⟩ := List.cons.inj hl
      exact absurd rfl hne
    · exact absurd hl (by simp)

/-- Each token of a text is found at a lexer that the scan comes to. -/
theorem exists_scans {source : String} {ts us : List Lexeme} {l : Lexeme}
    (h : tokenize source = ts ++ l :: us) (hne : l.token ≠ .eof) :
    ∃ c ds a rest, Scans source ts ⟨c :: ds, l.position, a⟩ ∧
      scan a c ds = (some l.token, rest) :=
  exists_scans_of_tokens .start h hne

/-! ### The step at a minus sign -/

/-- A minus sign is a part of a number, or a token alone. -/
theorem scan_sign (a : Bool) (cs : List Char) :
    scan a '-' cs =
      if startsWithDigit cs ∧ a = false then (some (.number (-(numeral cs).1)), (numeral cs).2)
      else (some .minus, cs) := by
  split
  · next h =>
    obtain ⟨hdigit, rfl⟩ := h
    cases cs with
    | nil => exact absurd hdigit (by decide)
    | cons c cs => exact scan_minus hdigit cs
  · next h =>
    have hneither : ¬ ('-' = '-' ∧ !a ∧ startsWithDigit cs) := by
      rintro ⟨-, ha, hdigit⟩
      exact h ⟨hdigit, by simpa using ha⟩
    unfold scan
    rw [if_neg (by decide), if_neg (by decide), if_neg (by decide), if_neg hneither]
    cases cs <;> rfl

/-! ### Numbers with a sign -/

theorem isNegative_wordToken (word : String) : (wordToken word).isNegative = false := by
  fun_cases wordToken word <;> rfl

theorem isNegative_pairToken (c d : Char) : (pairToken c d).any Token.isNegative = false := by
  fun_cases pairToken c d <;> rfl

theorem isNegative_singleToken (c : Char) : (singleToken c).any Token.isNegative = false := by
  fun_cases singleToken c <;> rfl

theorem isNegative_symbol (c : Char) (cs : List Char) :
    (symbol c cs).1.any Token.isNegative = false := by
  fun_cases symbol c cs with
  | case1 => exact isNegative_singleToken c
  | case2 d rest t h => exact h ▸ isNegative_pairToken c d
  | case3 => exact isNegative_singleToken c

/-- Digits alone give a number without a sign. -/
theorem isNegative_numeral (cs : List Char) : (Token.number (numeral cs).1).isNegative = false :=
  (Number.signClear_toFloat _).negative

/-- A number whose sign bit is set is found at a minus sign before a digit only, and only where no
operand has just ended. -/
theorem sign_of_isNegative {a : Bool} {c : Char} {cs : List Char}
    (h : (scan a c cs).1.any Token.isNegative) : c = '-' ∧ startsWithDigit cs ∧ a = false := by
  have hnever : ∀ {b : Bool}, b = false → b = true → c = '-' ∧ startsWithDigit cs ∧ a = false := by
    rintro b rfl hb
    exact absurd hb Bool.false_ne_true
  revert h
  fun_cases scan a c cs with
  | case1 _ content rest hq => cases content <;> exact hnever rfl
  | case2 => exact hnever (isNegative_wordToken _)
  | case3 _ _ _ value rest hn =>
    have hvalue := isNegative_numeral (c :: cs)
    rw [hn] at hvalue
    exact hnever hvalue
  | case4 _ _ _ hminus => exact fun _ => ⟨hminus.1, hminus.2.2, by simpa using hminus.2.1⟩
  | case5 => exact hnever (isNegative_symbol c cs)

/-- A number whose sign bit is set does not come right after the end of an operand. -/
theorem isNegative_of_endsOperand {source : String} {l m : Lexeme} (hpair : [l, m] <:+: tokenize source)
    (hends : l.token.endsOperand) : m.token.isNegative = false := by
  obtain ⟨before, after, htokens⟩ := hpair
  cases hnegative : m.token.isNegative with
  | false => rfl
  | true =>
    have hne : m.token ≠ .eof := by
      intro heof
      rw [heof] at hnegative
      exact absurd hnegative Bool.false_ne_true
    have hfound : tokenize source = (before ++ [l]) ++ m :: after := by
      rw [← htokens, List.append_assoc, List.append_assoc]
      rfl
    obtain ⟨c, cs, a, rest, h, hscan⟩ := exists_scans hfound hne
    obtain ⟨-, -, rfl⟩ := sign_of_isNegative (by rw [hscan]; exact hnegative)
    have hflag : false = l.token.endsOperand :=
      h.afterOperand_eq.trans (endsWithOperand_concat before l)
    exact absurd (hflag.trans hends) Bool.false_ne_true

end Lexer

open Lexer

/-- **Minus signs.**  Wherever the scan of a text comes to a minus sign, the tokens found so far decide
with the next character what it is: if a digit follows and the last of these tokens, if any, ends no
operand, it is found as the sign of the number that follows, and else as a token alone.  So no number
whose sign bit is set comes right after the end of an operand, and none right after tokens that spell an
expression, by whatever rule. -/
theorem tokenize_signs (source : String) :
    (∀ ts cs p a, Scans source ts ⟨'-' :: cs, p, a⟩ →
      source.toList.drop p = '-' :: cs ∧
      tokenize source = ts ++
        if startsWithDigit cs ∧ endsWithOperand ts = false then
          ⟨.number (-(numeral cs).1), p⟩ ::
            tokens ⟨(numeral cs).2, p + (cs.length + 1 - (numeral cs).2.length), true⟩
        else ⟨.minus, p⟩ :: tokens ⟨cs, p + 1, false⟩) ∧
    (∀ l m, [l, m] <:+: tokenize source → l.token.endsOperand → m.token.isNegative = false) ∧
    ∀ r e ts m, Spells r e ts → ts ++ [m] <:+: tokenize source → m.token.isNegative = false := by
  have hapart : ∀ l m, [l, m] <:+: tokenize source → l.token.endsOperand →
      m.token.isNegative = false := fun l m => isNegative_of_endsOperand
  refine ⟨fun ts cs p a h => ⟨h.rest_eq, ?_⟩, hapart, fun r e ts m hspells hpair => ?_⟩
  · have hscan := scan_sign a cs
    obtain rfl : a = endsWithOperand ts := h.afterOperand_eq
    rw [h.tokenize_eq]
    split
    · next hsign =>
      rw [if_pos hsign] at hscan
      rw [tokens_of_scan hscan]
      rfl
    · next hsign =>
      rw [if_neg hsign] at hscan
      rw [tokens_of_scan hscan, Nat.add_sub_cancel_left]
      rfl
  · obtain rfl | ⟨us, l, rfl⟩ := ts.eq_nil_or_concat
    · exact absurd rfl hspells.ne_nil
    · have hends := hspells.ends
      rw [List.concat_eq_append, endsWithOperand_concat] at hends
      rw [List.concat_eq_append, List.append_assoc] at hpair
      exact hapart l m (List.IsInfix.trans (List.suffix_append us [l, m]).isInfix hpair) hends

/-- The minus sign after the blank is an operator, and the one after it is a sign.  No sign follows the name
or the number. -/
theorem tokenize_signs_difference :
    tokenize "x --1" = [⟨.identifier "x", 0⟩, ⟨.minus, 2⟩, ⟨.number (-1), 3⟩, ⟨.eof, 5⟩] ∧
      Token.isNegative .minus = false ∧ Token.isNegative .eof = false := by
  have hstart : Scans "x --1" [] ⟨['x', ' ', '-', '-', '1'], 0, false⟩ := .start
  have hword : scan false 'x' [' ', '-', '-', '1'] =
      (some (.identifier "x"), [' ', '-', '-', '1']) := by decide +kernel
  have hblank : scan true ' ' ['-', '-', '1'] = (none, ['-', '-', '1']) := by decide +kernel
  have hminus : scan true '-' ['-', '1'] = (some .minus, ['-', '1']) := by decide +kernel
  have hsecond : Scans "x --1" [⟨.identifier "x", 0⟩, ⟨.minus, 2⟩] ⟨['-', '1'], 3, false⟩ :=
    ((hstart.token hword).passed hblank).token hminus
  obtain ⟨-, htokens⟩ := (tokenize_signs "x --1").1 _ _ _ _ hsecond
  have hnumber : numeral ['1'] = (1, []) := by decide +kernel
  have hall : tokenize "x --1" =
      [⟨.identifier "x", 0⟩, ⟨.minus, 2⟩, ⟨.number (-1), 3⟩, ⟨.eof, 5⟩] := by
    rw [htokens, if_pos (by decide), hnumber, tokens_nil]
    rfl
  obtain ⟨-, hapart, hspelled⟩ := tokenize_signs "x --1"
  refine ⟨hall, hapart ⟨.identifier "x", 0⟩ ⟨.minus, 2⟩ ?_ rfl, ?_⟩
  · rw [hall]
    exact ⟨[], _, rfl⟩
  · have hnumber : Spells .operand (.number (-1)) [⟨.number (-1), 3⟩] := .number
    refine hspelled _ _ _ ⟨.eof, 5⟩ hnumber ?_
    rw [hall]
    exact ⟨[⟨.identifier "x", 0⟩, ⟨.minus, 2⟩], [], rfl⟩

end HostExpr
