import HostExpr.Proofs.OrderedChoice

/-!
# Calls on one parser, one after another

A parser can be asked for an expression, or for one that all remaining tokens belong to, again and again,
also after an error.  An error leaves all levels that have been entered, up to `maxNesting` of them, and an
alternative that was being tried is not undone.  Still nothing is left half done: the next call answers what
it answers on a parser of the tokens that are left.

* `Reading.levels_follow`: the counter of the buffer stands for the levels that are left;
* `Reading.expression_operand_eq`: the recursion of the rules, with the counter alone;
* `Buffer.answer_spec`, `Buffer.afterCalls_spec`: what one call does, and what a history of calls does;
* `Buffer.answer_afresh`: a call after any history.
-/

namespace HostExpr

open Stateful

namespace Reading

variable {b : Buffer} {depth : Nat}

/-! ### Levels -/

/-- The levels that the counter leaves are the levels that are left. -/
theorem levels_follow (n depth : Nat) (h : n + depth = maxNesting) :
    Follows depth (expressionWithin n) (Parse.expression n) ∧
      Follows depth (operandWithin n) (Parse.operand n) := by
  induction n generalizing depth with
  | zero => exact ⟨Follows.tooDeep, Follows.tooDeep⟩
  | succ n ih =>
    obtain ⟨hsub, hbang⟩ := ih (depth + 1) (by omega)
    have hlt : depth < maxNesting := by omega
    exact ⟨(conditional_follows hsub hbang).nested hlt, (simple_follows hsub hbang).nested hlt⟩

theorem expression_follows (h : depth ≤ maxNesting) :
    Follows depth expression (Parse.expression (maxNesting - depth)) := by
  intro b hb hdepth
  subst hdepth
  exact (levels_follow (maxNesting - b.depth) b.depth (Nat.sub_add_cancel h)).1 b hb rfl

theorem operand_follows (h : depth ≤ maxNesting) :
    Follows depth operand (Parse.operand (maxNesting - depth)) := by
  intro b hb hdepth
  subst hdepth
  exact (levels_follow (maxNesting - b.depth) b.depth (Nat.sub_add_cancel h)).2 b hb rfl

theorem input_follows : Follows 0 input (Parse.input maxNesting) := by
  refine (expression_follows (Nat.zero_le _)).bind fun e => Follows.peek.bind fun l => ?_
  exact (Follows.pure e).ite (.unexpected .endOfInput)

/-! ### The recursion on the counter -/

/-- Readings that come to the same as one reading from tokens come to the same. -/
theorem Outcome.eq {α : Type} {r r' : EStateM.Result ParseError Buffer α}
    {s : EStateM.Result ParseError (List Lexeme) α} (h : Outcome b r s) (h' : Outcome b r' s) :
    r = r' := by
  cases h with
  | ok hc =>
    generalize hrest : Buffer.rest _ = rest at h'
    cases h' with
    | ok hd => rw [hc.eq_of_rest hd hrest]
  | error hc =>
    generalize hrest : Buffer.rest _ = rest at h'
    cases h' with
    | error hd => rw [hc.eq_of_rest hd hrest]

/-- The rules are read one level further down, with the rules themselves for the parts: the levels
that are handed on are the ones that the counter leaves. -/
theorem expression_operand_eq (hb : b.Valid) (h : b.depth ≤ maxNesting) :
    expression b = nested (conditional expression operand) b ∧
      operand b = nested (simple expression operand) b := by
  rcases Nat.lt_or_eq_of_le h with hlt | heq
  · have hsub := expression_follows (Nat.succ_le_of_lt hlt)
    have hbang := operand_follows (Nat.succ_le_of_lt hlt)
    have hlevels : maxNesting - b.depth = maxNesting - (b.depth + 1) + 1 := by omega
    have hexpression := expression_follows h b hb rfl
    have hoperand := operand_follows h b hb rfl
    rw [hlevels] at hexpression hoperand
    exact ⟨hexpression.eq ((conditional_follows hsub hbang).nested hlt b hb rfl),
      hoperand.eq ((simple_follows hsub hbang).nested hlt b hb rfl)⟩
  · have hnone : maxNesting - b.depth = 0 := by omega
    have htooDeep : ∀ p : Reading Expr, nested p b = tooDeep b :=
      fun p => if_pos (Nat.le_of_eq heq.symm)
    unfold expression operand
    rw [htooDeep, htooDeep, hnone]
    exact ⟨rfl, rfl⟩

end Reading

/-! ### Single calls -/

namespace Buffer

variable {α : Type} {b : Buffer} {p : Reading α} {q : Parse α}

/-- A reading that is run on a buffer leaves what is left for a parser of the remaining tokens. -/
theorem run_of_outcome (h : Reading.Outcome b (p b) (q b.rest)) :
    b.Onward (b.run p).2 ∧ Parser.run q ⟨b.rest⟩ = ((b.run p).1, ⟨(b.run p).2.rest⟩) := by
  unfold run Parser.run
  generalize p b = r at h
  generalize q b.rest = s at h
  cases h with
  | ok hc => exact ⟨hc, rfl⟩
  | error hc => exact ⟨hc, rfl⟩

/-- One call, whether it fails or not. -/
theorem answer_spec (hb : b.Valid) (hdepth : b.depth = 0) (call : Call) :
    b.Onward (b.answer call).2 ∧
      Parser.answer ⟨b.rest⟩ call = ((b.answer call).1, ⟨(b.answer call).2.rest⟩) := by
  cases call with
  | expression =>
    exact run_of_outcome (Reading.expression_follows (Nat.zero_le _) b hb hdepth)
  | input => exact run_of_outcome (Reading.input_follows b hb hdepth)

/-! ### Histories of calls -/

theorem afterCalls_spec (hb : b.Valid) (hdepth : b.depth = 0) (calls : List Call) :
    b.Onward (b.afterCalls calls) ∧
      Parser.afterCalls ⟨b.rest⟩ calls = ⟨(b.afterCalls calls).rest⟩ := by
  induction calls generalizing b with
  | nil => exact ⟨hb.refl, rfl⟩
  | cons call calls ih =>
    obtain ⟨honward, hanswer⟩ := answer_spec hb hdepth call
    obtain ⟨hmore, hrest⟩ := ih honward.valid (honward.depth.trans hdepth)
    refine ⟨honward.trans hmore, ?_⟩
    show Parser.afterCalls (Parser.answer ⟨b.rest⟩ call).2 calls = _
    rw [hanswer]
    exact hrest

/-! ### Fresh parsers -/

theorem ofTokens_valid (tokens : List Lexeme) : (ofTokens tokens).Valid := by
  refine ⟨List.findIdx_lt_length_of_exists ?_, Nat.zero_le _⟩
  obtain ⟨us, p, htokens⟩ := Parser.exists_ofTokens_eq tokens
  refine ⟨⟨.eof, p⟩, ?_, by simp⟩
  show _ ∈ (Parser.ofTokens tokens).rest
  rw [htokens]
  exact List.mem_concat_self

theorem ofTokens_rest (tokens : List Lexeme) :
    (ofTokens tokens).rest = (Parser.ofTokens tokens).rest := rfl

/-- Nothing is added to the tokens that are left. -/
theorem ofTokens_drop {tokens : List Lexeme} (h : (ofTokens tokens).Onward b) :
    Parser.ofTokens b.rest = ⟨b.rest⟩ := by
  obtain ⟨us, p, htokens⟩ := Parser.exists_ofTokens_eq tokens
  have hb : b.tokens = us ++ [⟨.eof, p⟩] := h.tokens.trans htokens
  have hle : b.cursor ≤ us.length := by
    have hlt := h.valid.cursor_lt
    rw [hb, List.length_append] at hlt
    exact Nat.le_of_lt_succ hlt
  have hrest : b.rest = us.drop b.cursor ++ [⟨.eof, p⟩] := by
    unfold rest
    rw [hb, List.drop_append_of_le_length hle]
  rw [hrest]
  exact congrArg Parser.mk (Parser.rest_ofTokens_eof _ p)

/-- Whatever calls came before, failing ones included, a call on a parser answers what it answers on
a parser of the tokens from the place that is reached.  Between calls no level is entered, and the place
only moves on, up to the first end of the text. -/
theorem answer_afresh (tokens : List Lexeme) (calls : List Call) (call : Call) :
    let b := (ofTokens tokens).afterCalls calls
    (b.answer call).1 = ((ofTokens (b.tokens.drop b.cursor)).answer call).1 ∧
      (b.answer call).1 = (((Parser.ofTokens tokens).afterCalls calls).answer call).1 ∧
      (b.answer call).1 = ((Parser.ofTokens (b.tokens.drop b.cursor)).answer call).1 ∧
      b.tokens = (ofTokens tokens).tokens ∧ b.depth = 0 ∧
      b.cursor ≤ (b.answer call).2.cursor ∧
      (b.answer call).2.cursor ≤ b.tokens.findIdx (·.token = .eof) ∧
      b.tokens.findIdx (·.token = .eof) < b.tokens.length := by
  intro b
  have hvalid := ofTokens_valid tokens
  obtain ⟨honward, hparser⟩ := afterCalls_spec hvalid rfl calls
  obtain ⟨hanswer, hcall⟩ := answer_spec honward.valid honward.depth call
  -- a fresh buffer of the tokens that are left has these tokens left again
  have hfresh : Parser.ofTokens b.rest = ⟨b.rest⟩ := ofTokens_drop honward
  have hagain : (ofTokens b.rest).rest = b.rest := by rw [ofTokens_rest, hfresh]
  obtain ⟨-, hafresh⟩ := answer_spec (ofTokens_valid b.rest) rfl call
  rw [hagain, hcall] at hafresh
  refine ⟨(Prod.mk.inj hafresh).1, ?_, ?_, honward.tokens, honward.depth, hanswer.cursor_le, ?_,
    honward.valid.ends⟩
  · show _ = (Parser.answer (Parser.afterCalls ⟨(ofTokens tokens).rest⟩ calls) call).1
    rw [hparser, hcall]
  · show _ = (Parser.answer (Parser.ofTokens b.rest) call).1
    rw [hfresh, hcall]
  · rw [← hanswer.tokens]
    exact hanswer.valid.cursor_le

end Buffer

end HostExpr
