import HostExpr.Proofs.TokenSpelling
import HostExpr.Text.Blank

/-!
# A text as tokens and what stands between them

* `Lexer.Stretch`: the characters of a token, or characters that produce none;
* `Lexer.Divides`: a text cut into stretches, each of which stands where it may;
* `Lexer.stretches`: the stretches that a scan finds, with `Lexer.stretches_divides`;
* `Lexer.scan_induction`: induction along the steps of a scan;
* `Lexer.tokens_eq_placed`: the tokens of a text are those of its stretches;
* `tokenize_lossless`: scanning loses nothing and makes nothing up.
-/

namespace HostExpr

open Lexer

namespace Lexer

/-! ### Stretches -/

/-- A stretch of a text: the characters of a token, a character that is passed over, or a quote that
is not closed with all that follows it. -/
inductive Stretch where
  | token (t : Token) (chars : List Char)
  | passed (c : Char)
  | unclosed (chars : List Char)
  deriving DecidableEq

namespace Stretch

/-- The characters of a stretch. -/
def chars : Stretch → List Char
  | token _ cs => cs
  | passed c => [c]
  | unclosed cs => cs

/-- Whether a stretch may stand where `rest` follows. -/
def Stands : Stretch → List Char → Prop
  | token t cs, rest => t.SpelledBy cs rest
  | passed c, rest => Blank.isBlank c ∨ (¬ IsQuote c ∧ ¬ StartsToken (c :: rest))
  | unclosed cs, rest => (∃ c ∈ cs.head?, IsQuote c) ∧ ¬ StartsToken cs ∧ rest = []

end Stretch

/-- A text is cut into stretches, each of which stands where it may. -/
inductive Divides : List Stretch → List Char → Prop
  | nil : Divides [] []
  | cons {s : Stretch} {ss : List Stretch} {rest : List Char} :
      s.Stands rest → Divides ss rest → Divides (s :: ss) (s.chars ++ rest)

/-- The tokens among the stretches of a text that begins at the offset `p`. -/
def placed : Nat → List Stretch → List Lexeme
  | _, [] => []
  | p, .token t cs :: ss => ⟨t, p⟩ :: placed (p + cs.length) ss
  | p, s :: ss => placed (p + s.chars.length) ss

/-- The stretches that scanning finds. -/
def stretches (afterOperand : Bool) : List Char → List Stretch
  | [] => []
  | c :: cs =>
    let step := scan afterOperand c cs
    match step.1 with
    | some t =>
      .token t ((c :: cs).take ((c :: cs).length - step.2.length)) :: stretches t.endsOperand step.2
    | none =>
      (if c = '"' ∨ c = '\'' then .unclosed (c :: cs) else .passed c) ::
        stretches afterOperand step.2
  termination_by cs => cs.length
  decreasing_by all_goals exact Nat.lt_succ_of_le (length_scan_le afterOperand c cs)

/-! ### Stretches of a text -/

theorem stretches_of_scan {a : Bool} {c : Char} {ds rest : List Char} {t : Token}
    (h : scan a c (ds ++ rest) = (some t, rest)) :
    stretches a (c :: (ds ++ rest)) = .token t (c :: ds) :: stretches t.endsOperand rest := by
  have htake : (c :: (ds ++ rest)).take ((c :: (ds ++ rest)).length - rest.length) = c :: ds := by
    have hlength : (c :: (ds ++ rest)).length - rest.length = (c :: ds).length := by
      rw [List.length_cons, List.length_append, List.length_cons]
      omega
    rw [hlength, ← List.cons_append]
    exact List.take_left
  rw [stretches]
  simp only [h, htake]

theorem stretches_of_skip {a : Bool} {c : Char} {cs : List Char} (hquote : ¬ IsQuote c)
    (h : scan a c cs = (none, cs)) : stretches a (c :: cs) = .passed c :: stretches a cs := by
  rw [stretches]
  simp only [h]
  rw [if_neg hquote]

theorem stretches_of_unclosed {a : Bool} {c : Char} {cs : List Char} (hquote : IsQuote c)
    (h : scan a c cs = (none, [])) : stretches a (c :: cs) = [.unclosed (c :: cs)] := by
  rw [stretches]
  simp only [h]
  rw [if_pos hquote, stretches]

/-- A property of scans that holds at the end of a text and that one step of a scan keeps. -/
theorem scan_induction {P : Bool → List Char → Prop} (nil : ∀ a, P a [])
    (token : ∀ a c ds rest t, scan a c (ds ++ rest) = (some t, rest) → t.SpelledBy (c :: ds) rest →
      P t.endsOperand rest → P a (c :: (ds ++ rest)))
    (passed : ∀ a c cs, ¬ IsQuote c → scan a c cs = (none, cs) → ¬ StartsToken (c :: cs) → P a cs →
      P a (c :: cs))
    (unclosed : ∀ a c cs, IsQuote c → scan a c cs = (none, []) → ¬ StartsToken (c :: cs) →
      P a (c :: cs)) (a : Bool) (cs : List Char) : P a cs := by
  induction hn : cs.length using Nat.strongRecOn generalizing a cs with
  | ind n ih =>
    subst hn
    cases cs with
    | nil => exact nil a
    | cons c cs =>
      obtain ⟨t, ds, rest, rfl, hscan, hspelled⟩ | ⟨hquote, hscan, hnot⟩ | ⟨hquote, hscan, hnot⟩ :=
        scan_cases a c cs
      · refine token a c ds rest t hscan hspelled (ih _ ?_ _ rest rfl)
        rw [List.length_cons, List.length_append]
        omega
      · exact passed a c cs hquote hscan hnot (ih _ (Nat.lt_succ_self _) a cs rfl)
      · exact unclosed a c cs hquote hscan hnot

/-- The stretches that scanning finds are the whole text, and each of them stands where it may. -/
theorem stretches_divides (a : Bool) (cs : List Char) : Divides (stretches a cs) cs := by
  induction a, cs using scan_induction with
  | nil a =>
    rw [stretches]
    exact .nil
  | token a c ds rest t hscan hspelled ih =>
    rw [stretches_of_scan hscan]
    exact .cons (s := .token t (c :: ds)) hspelled ih
  | passed a c cs hquote hscan hnot ih =>
    rw [stretches_of_skip hquote hscan]
    exact .cons (s := .passed c) (.inr ⟨hquote, hnot⟩) ih
  | unclosed a c cs hquote hscan hnot =>
    have hstands : (Stretch.unclosed (c :: cs)).Stands [] := ⟨⟨c, rfl, hquote⟩, hnot, rfl⟩
    have hdivides := Divides.cons hstands .nil
    rw [stretches_of_unclosed hquote hscan]
    rw [List.append_nil] at hdivides
    exact hdivides

/-- The tokens of a text are those of its stretches, and the end of the text. -/
theorem tokens_eq_placed (a : Bool) (cs : List Char) (p : Nat) :
    tokens ⟨cs, p, a⟩ = placed p (stretches a cs) ++ [⟨.eof, p + cs.length⟩] := by
  induction a, cs using scan_induction generalizing p with
  | nil a =>
    rw [stretches, tokens]
    rfl
  | token a c ds rest t hscan hspelled ih =>
    rw [stretches_of_scan hscan, ← List.cons_append, tokens_append hscan, ih, placed,
      List.cons_append, List.length_append, Nat.add_assoc]
  | passed a c cs hquote hscan hnot ih =>
    rw [stretches_of_skip hquote hscan, tokens_of_skip hscan, ih, Nat.add_sub_cancel_left, placed,
      List.length_cons, Nat.add_assoc, Nat.add_comm 1]
    · rfl
    · simp
  | unclosed a c cs hquote hscan hnot =>
    rw [stretches_of_unclosed hquote hscan, tokens_of_skip hscan, tokens]
    rfl

/-! ### Positions -/

theorem Stretch.Stands.ne_nil {s : Stretch} {rest : List Char} (h : s.Stands rest) :
    s.chars ≠ [] := by
  cases s with
  | token t cs => exact Token.SpelledBy.ne_nil h
  | passed c => simp [Stretch.chars]
  | unclosed cs =>
    obtain ⟨⟨c, hc, -⟩, -, -⟩ := h
    rintro rfl
    exact absurd hc (by simp)

theorem Divides.ne_nil {ss : List Stretch} {cs : List Char} (h : Divides ss cs) :
    ∀ s ∈ ss, s.chars ≠ [] := by
  induction h with
  | nil => simp
  | cons hs _ ih => exact List.forall_mem_cons.2 ⟨hs.ne_nil, ih⟩

/-- The tokens that come after some stretch of a text stand after it, and the end of the text is
none of them. -/
theorem Divides.mem_placed {ss : List Stretch} {cs : List Char} (h : Divides ss cs) {p : Nat}
    {l : Lexeme} (hl : l ∈ placed p ss) :
    l.token ≠ .eof ∧ p ≤ l.position ∧ l.position < p + cs.length := by
  induction h generalizing p with
  | nil => exact absurd hl (by simp [placed])
  | @cons s ss rest hs _ ih =>
    have hpos := List.length_pos_iff.2 hs.ne_nil
    rw [List.length_append]
    have hlater : l ∈ placed (p + s.chars.length) ss →
        l.token ≠ .eof ∧ p ≤ l.position ∧ l.position < p + (s.chars.length + rest.length) := by
      intro hmem
      obtain ⟨hne, hlow, hhigh⟩ := ih hmem
      exact ⟨hne, by omega, by omega⟩
    cases s with
    | token t cs =>
      rcases List.mem_cons.1 hl with rfl | hmem
      · exact ⟨Token.SpelledBy.ne_eof hs, Nat.le_refl p, by simp only; omega⟩
      · exact hlater hmem
    | passed c => exact hlater hl
    | unclosed cs => exact hlater hl

/-- The tokens of a text and its end stand one after another. -/
theorem Divides.pairwise_placed {ss : List Stretch} {cs : List Char} (h : Divides ss cs) (p : Nat) :
    List.Pairwise (fun l m : Lexeme => l.position < m.position)
      (placed p ss ++ [⟨.eof, p + cs.length⟩]) := by
  induction h generalizing p with
  | nil => exact List.pairwise_singleton _ _
  | @cons s ss rest hs hss ih =>
    have hpos := List.length_pos_iff.2 hs.ne_nil
    have hlater := ih (p + s.chars.length)
    rw [List.length_append, ← Nat.add_assoc]
    cases s with
    | token t cs =>
      refine List.pairwise_cons.2 ⟨fun m hm => ?_, hlater⟩
      show p < m.position
      rcases List.mem_append.1 hm with hmem | hend
      · have hlow := (hss.mem_placed hmem).2.1
        simp only [Stretch.chars] at hpos
        omega
      · obtain rfl := List.mem_singleton.1 hend
        simp only
        omega
    | passed c => exact hlater
    | unclosed cs => exact hlater

end Lexer

/-- **Nothing is lost in scanning.**  A text is cut into stretches: those of its tokens, each of which
spells its token and is the longest that does so where it stands, white space and characters that start
no token, and at most one quote that is not closed, with all that follows it.  The tokens that are
found are those of the stretches in their order, each at the offset of its first character, and then
the end of the text, which is none of them. -/
theorem tokenize_lossless (source : String) :
    ∃ ss, Divides ss source.toList ∧ (∀ s ∈ ss, s.chars ≠ []) ∧
      tokenize source = placed 0 ss ++ [⟨.eof, source.length⟩] ∧
      (∀ l ∈ placed 0 ss, l.token ≠ .eof) ∧
      (tokenize source).Pairwise fun l m => l.position < m.position := by
  have hdivides := stretches_divides false source.toList
  have htokens : tokenize source =
      placed 0 (stretches false source.toList) ++ [⟨.eof, 0 + source.toList.length⟩] :=
    tokens_eq_placed false source.toList 0
  have hordered := hdivides.pairwise_placed 0
  rw [← htokens] at hordered
  rw [Nat.zero_add, String.length_toList] at htokens
  exact ⟨_, hdivides, hdivides.ne_nil, htokens, fun l hl => (hdivides.mem_placed hl).1, hordered⟩

end HostExpr
