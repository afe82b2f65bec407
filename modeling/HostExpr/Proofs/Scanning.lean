import HostExpr.Proofs.NumberText

/-!
# What stands at the front of a text

How a text is scanned that begins with a spelling of a known token.

* `Lexer.tokens_of_scan`, `Lexer.tokens_append`, `Lexer.tokens_of_skip`: one step of the scan;
* `Lexer.tokens_plain`: the text of a number is scanned as that number;
* `Lexer.tokens_blank`, `Lexer.tokens_symbol`: blanks and symbols of one character.

A number with a minus sign is one token only where no operand stands before it.
-/

namespace HostExpr.Lexer

/-! ### One step -/

theorem tokens_of_scan {a : Bool} {c : Char} {cs rest : List Char} {t : Token}
    (h : scan a c cs = (some t, rest)) (p : Nat) :
    tokens ⟨c :: cs, p, a⟩ =
      ⟨t, p⟩ :: tokens ⟨rest, p + (cs.length + 1 - rest.length), t.endsOperand⟩ := by
  rw [tokens]
  simp only [h]

/-- The characters of a token are passed over with it. -/
theorem tokens_append {a : Bool} {c : Char} {cs rest : List Char} {t : Token}
    (h : scan a c (cs ++ rest) = (some t, rest)) (p : Nat) :
    tokens ⟨c :: cs ++ rest, p, a⟩ =
      ⟨t, p⟩ :: tokens ⟨rest, p + (c :: cs).length, t.endsOperand⟩ := by
  have hlength : (cs ++ rest).length + 1 - rest.length = (c :: cs).length := by
    rw [List.length_append, List.length_cons]
    omega
  rw [List.cons_append, tokens_of_scan h, hlength]

theorem tokens_of_skip {a : Bool} {c : Char} {cs rest : List Char} (h : scan a c cs = (none, rest))
    (p : Nat) :
    tokens ⟨c :: cs, p, a⟩ = tokens ⟨rest, p + (cs.length + 1 - rest.length), a⟩ := by
  rw [tokens]
  simp only [h]

theorem tokens_nil (p : Nat) (a : Bool) : tokens ⟨[], p, a⟩ = [⟨.eof, p⟩] := by
  rw [tokens]

/-! ### Numbers -/

/-- A digit starts no string and no word. -/
theorem digit_cases {c : Char} (h : Decimal.isDigit c) :
    ¬ (c = '"' ∨ c = '\'') ∧ Letter.startsWord c = false := by
  unfold Decimal.isDigit at h
  rw [Bool.and_eq_true, decide_eq_true_iff, decide_eq_true_iff, Char.le_def, Char.le_def,
    UInt32.le_iff_toNat_le, UInt32.le_iff_toNat_le] at h
  have hlow : 48 ≤ c.toNat := h.1
  have hhigh : c.toNat ≤ 57 := h.2
  constructor
  · rintro (rfl | rfl)
    · exact absurd hlow (by decide)
    · exact absurd hlow (by decide)
  · have hupper : ¬ (65 : UInt32) ≤ c.val := by
      rw [UInt32.le_iff_toNat_le]
      show ¬ 65 ≤ c.toNat
      omega
    have hlower : ¬ (97 : UInt32) ≤ c.val := by
      rw [UInt32.le_iff_toNat_le]
      show ¬ 97 ≤ c.toNat
      omega
    have halpha : c.isAlpha = false := by
      show (decide (65 ≤ c.val ∧ c.val ≤ 90) || decide (97 ≤ c.val) && decide (c.val ≤ 122)) = false
      rw [decide_eq_false (fun h => hupper h.1), decide_eq_false hlower]
      rfl
    have hunderscore : (c == '_') = false := by
      rw [beq_eq_false_iff_ne]
      rintro rfl
      exact absurd hhigh (by decide)
    unfold Letter.startsWord Letter.isAlphabetic
    rw [if_pos (by omega), halpha, hunderscore]
    rfl

theorem scan_digit {c : Char} (h : Decimal.isDigit c) (a : Bool) (cs : List Char) :
    scan a c cs = (some (.number (numeral (c :: cs)).1), (numeral (c :: cs)).2) := by
  obtain ⟨hquote, hword⟩ := digit_cases h
  unfold scan
  rw [if_neg hquote, if_neg (by simp [hword]), if_pos h]

theorem scan_minus {c : Char} (h : Decimal.isDigit c) (cs : List Char) :
    scan false '-' (c :: cs) =
      (some (.number (-(numeral (c :: cs)).1)), (numeral (c :: cs)).2) := by
  have hminus : ('-' : Char) = '-' ∧ (!false) = true ∧ startsWithDigit (c :: cs) = true :=
    ⟨rfl, rfl, h⟩
  unfold scan
  rw [if_neg (by decide), if_neg (by decide), if_neg (by decide), if_pos hminus]

/-- The text of a number that reads back is scanned as that number where no operand stands before
it. -/
theorem tokens_plain {x : Float} (h : Number.read? (Number.plain x) = some x) {rest : List Char}
    (hrest : Decimal.EndsNumeral rest) (p : Nat) :
    tokens ⟨Number.plain x ++ rest, p, false⟩ =
      ⟨.number x, p⟩ :: tokens ⟨rest, p + (Number.plain x).length, true⟩ := by
  obtain ⟨c, cs, y, hc, hnumeral, ⟨hplain, hx⟩ | ⟨hplain, hx⟩⟩ := Number.plain_cases h
  · have hscan : scan false c (cs ++ rest) = (some (.number x), rest) := by
      rw [scan_digit hc, ← List.cons_append, hnumeral rest hrest, hx]
    rw [hplain]
    exact tokens_append hscan p
  · have hscan : scan false '-' (c :: cs ++ rest) = (some (.number x), rest) := by
      rw [List.cons_append, scan_minus hc, ← List.cons_append, hnumeral rest hrest, hx]
    rw [hplain]
    exact tokens_append hscan p

/-! ### Blanks and symbols -/

theorem tokens_blank (cs : List Char) (p : Nat) (a : Bool) :
    tokens ⟨' ' :: cs, p, a⟩ = tokens ⟨cs, p + 1, a⟩ := by
  have hscan : scan a ' ' cs = (none, cs) := by
    cases cs <;> cases a <;> rfl
  rw [tokens_of_skip hscan, Nat.add_sub_cancel_left]

/-- A symbol of one character that does not go together with the character after it. -/
theorem tokens_symbol {a : Bool} {c : Char} {cs : List Char} {t : Token}
    (h : scan a c cs = (some t, cs)) (p : Nat) :
    tokens ⟨c :: cs, p, a⟩ = ⟨t, p⟩ :: tokens ⟨cs, p + 1, t.endsOperand⟩ :=
  @tokens_append a c [] cs t h p

/-- The brackets and the comma. -/
def brackets : List (Char × Token) :=
  [('(', .openParen), (')', .closeParen), ('[', .openBracket), (']', .closeBracket), (',', .comma)]

/-- A bracket or a comma goes together with nothing after it. -/
theorem tokens_bracket {c : Char} {t : Token} (h : (c, t) ∈ brackets) (cs : List Char) (p : Nat)
    (a : Bool) : tokens ⟨c :: cs, p, a⟩ = ⟨t, p⟩ :: tokens ⟨cs, p + 1, t.endsOperand⟩ := by
  refine tokens_symbol ?_ p
  simp only [brackets, List.mem_cons, Prod.mk.injEq, List.not_mem_nil, or_false] at h
  rcases h with ⟨rfl, rfl⟩ | ⟨rfl, rfl⟩ | ⟨rfl, rfl⟩ | ⟨rfl, rfl⟩ | ⟨rfl, rfl⟩
  all_goals cases cs <;> cases a <;> rfl

theorem tokens_openParen (cs : List Char) (p : Nat) (a : Bool) :
    tokens ⟨'(' :: cs, p, a⟩ = ⟨.openParen, p⟩ :: tokens ⟨cs, p + 1, false⟩ :=
  tokens_bracket (by simp [brackets]) cs p a

theorem tokens_closeParen (cs : List Char) (p : Nat) (a : Bool) :
    tokens ⟨')' :: cs, p, a⟩ = ⟨.closeParen, p⟩ :: tokens ⟨cs, p + 1, true⟩ :=
  tokens_bracket (by simp [brackets]) cs p a

theorem tokens_openBracket (cs : List Char) (p : Nat) (a : Bool) :
    tokens ⟨'[' :: cs, p, a⟩ = ⟨.openBracket, p⟩ :: tokens ⟨cs, p + 1, false⟩ :=
  tokens_bracket (by simp [brackets]) cs p a

theorem tokens_closeBracket (cs : List Char) (p : Nat) (a : Bool) :
    tokens ⟨']' :: cs, p, a⟩ = ⟨.closeBracket, p⟩ :: tokens ⟨cs, p + 1, true⟩ :=
  tokens_bracket (by simp [brackets]) cs p a

theorem tokens_comma (cs : List Char) (p : Nat) (a : Bool) :
    tokens ⟨',' :: cs, p, a⟩ = ⟨.comma, p⟩ :: tokens ⟨cs, p + 1, false⟩ :=
  tokens_bracket (by simp [brackets]) cs p a

/-- An operator of one character between two blanks. -/
theorem tokens_operator {c : Char} {cs : List Char} {t : Token} (ht : t.endsOperand = false)
    (h : scan true c (' ' :: cs) = (some t, ' ' :: cs)) (p : Nat) :
    tokens ⟨' ' :: c :: ' ' :: cs, p, true⟩ = ⟨t, p + 1⟩ :: tokens ⟨cs, p + 3, false⟩ := by
  rw [tokens_blank, tokens_symbol h, tokens_blank, ht]

end HostExpr.Lexer
