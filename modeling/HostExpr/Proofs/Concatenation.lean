import HostExpr.Proofs.Embedding

/-!
# Texts one after another

A blank after a text whose string literals are closed cuts it off from what follows: the tokens of the
two texts are those of the first, and then those of the second, further on.

* `Lexer.tokens_shift`: a text that stands further on has the same tokens further on;
* `tokenize_append_blank`: the tokens of two texts with a blank between them.
-/

namespace HostExpr

namespace Lexer

/-- A text that stands further on has the same tokens further on. -/
theorem tokens_shift (cs : List Char) (p offset : Nat) (a : Bool) :
    tokens ⟨cs, p + offset, a⟩ = (tokens ⟨cs, p, a⟩).map (Lexeme.shift offset) := by
  rw [tokens_eq_placed, tokens_eq_placed, placed_shift, List.map_append, Nat.add_right_comm]
  rfl

end Lexer

open Lexer

/-- **Texts one after another.**  Let each string literal of a text be closed.  Where a blank and a
second text come after it, its tokens stay as they are, and its end is replaced by the tokens of the
second text, which are scanned with the flag of the last of these tokens and stand further on by what
comes before.  If that token ends no operand, they are the tokens of the second text alone. -/
theorem tokenize_append_blank (first second : String) (hclosed : Terminated false first.toList) :
    ∃ ts, tokenize first = ts ++ [⟨.eof, first.length⟩] ∧
      tokenize (first ++ " " ++ second) =
        ts ++ (tokens ⟨second.toList, 0, endsWithOperand ts⟩).map (Lexeme.shift (first.length + 1)) ∧
      (endsWithOperand ts = false →
        tokenize (first ++ " " ++ second) =
          ts ++ (tokenize second).map (Lexeme.shift (first.length + 1))) := by
  have hfirst : tokenize first =
      placed 0 (stretches false first.toList) ++ [⟨.eof, first.length⟩] := by
    unfold tokenize
    rw [tokens_eq_placed, Nat.zero_add, String.length_toList]
  have hboth : tokenize (first ++ " " ++ second) =
      placed 0 (stretches false first.toList) ++
        (tokens ⟨second.toList, 0, endsWithOperand (placed 0 (stretches false first.toList))⟩).map
          (Lexeme.shift (first.length + 1)) := by
    have hchars : (first ++ " " ++ second).toList = first.toList ++ ' ' :: second.toList := by
      simp [String.toList_append]
    unfold tokenize
    rw [hchars, tokens_append_of_terminated (endsToken_cons separates_blank _) hclosed, tokens_blank,
      ← tokens_shift, flagAfter_false _ 0, Nat.zero_add, Nat.zero_add, String.length_toList]
  refine ⟨_, hfirst, hboth, fun hflag => ?_⟩
  rw [hflag] at hboth
  exact hboth

/-- A minus sign is an operator after a word, and belongs to the number after a plus sign. -/
theorem tokenize_append_blank_sign :
    tokenize ("x" ++ " " ++ "-1") =
        [⟨.identifier "x", 0⟩, ⟨.minus, 2⟩, ⟨.number 1, 3⟩, ⟨.eof, 4⟩] ∧
      tokenize ("x+" ++ " " ++ "-1") =
        [⟨.identifier "x", 0⟩, ⟨.plus, 1⟩, ⟨.number (-1), 3⟩, ⟨.eof, 5⟩] := by
  obtain ⟨ts, hword, htokens, -⟩ := tokenize_append_blank "x" "-1" (by decide +kernel)
  obtain ⟨us, hplus, -, htokens'⟩ := tokenize_append_blank "x+" "-1" (by decide +kernel)
  have hts : tokenize "x" = [⟨.identifier "x", 0⟩] ++ [⟨.eof, 1⟩] := by decide +kernel
  have hus : tokenize "x+" = [⟨.identifier "x", 0⟩, ⟨.plus, 1⟩] ++ [⟨.eof, 2⟩] := by decide +kernel
  obtain rfl := (List.append_inj' (hword.symm.trans hts) rfl).1
  obtain rfl := (List.append_inj' (hplus.symm.trans hus) rfl).1
  have hsecond : tokens ⟨"-1".toList, 0, true⟩ = [⟨.minus, 0⟩, ⟨.number 1, 1⟩, ⟨.eof, 2⟩] := by
    decide +kernel
  have hsecond' : tokenize "-1" = [⟨.number (-1), 0⟩, ⟨.eof, 2⟩] := by decide +kernel
  refine ⟨?_, ?_⟩
  · rw [htokens]
    exact congrArg (fun us => _ :: us.map (Lexeme.shift 2)) hsecond
  · rw [htokens' rfl, hsecond']
    rfl

end HostExpr
