import HostExpr.Proofs.Boundaries
import HostExpr.Proofs.Parts

/-!
# The last token of an operand

Scanning remembers of the tokens before a minus sign whether the last one ends an operand.  The tokens
that do so are those with which the operands of the grammar end.

* `Spells.ends`: whatever is spelled ends with such a token, by every rule;
* `Token.endsOperand_iff`: each such token is the last one of some operand.

The body of a function and the operand of a `!` stand last, so they decide for the whole.
-/

namespace HostExpr

open Grammar

theorem endsWithOperand_last (ts : List Lexeme) {l : Lexeme} (h : l.token.endsOperand) :
    endsWithOperand (ts ++ [l]) := by
  rw [endsWithOperand_concat]
  exact h

theorem endsWithOperand_append {us : List Lexeme} (ts : List Lexeme) (h : endsWithOperand us) :
    endsWithOperand (ts ++ us) := by
  obtain rfl | ⟨us, l, rfl⟩ := us.eq_nil_or_concat
  · exact absurd h Bool.false_ne_true
  · rw [List.concat_eq_append, endsWithOperand_concat] at h
    rw [List.concat_eq_append, ← List.append_assoc]
    exact endsWithOperand_last _ h

theorem endsWithOperand_cons {us : List Lexeme} (l : Lexeme) (h : endsWithOperand us) :
    endsWithOperand (l :: us) :=
  endsWithOperand_append [l] h

/-! ### Parts -/

namespace Grammar

variable {α ω : Type} {ts : List Lexeme}

theorem Run.ends {part : α → List Lexeme → Prop} {xs : List α} (h : Run part xs ts)
    (hne : xs ≠ []) (hpart : ∀ x us, x ∈ xs → part x us → endsWithOperand us) : endsWithOperand ts := by
  induction h with
  | nil => exact absurd rfl hne
  | @cons x xs us vs hx hxs ih =>
    cases hxs with
    | nil =>
      rw [List.append_nil]
      exact hpart x us (List.mem_singleton_self x) hx
    | cons =>
      refine endsWithOperand_append us (ih (by simp) ?_)
      exact fun y ws hy => hpart y ws (List.mem_cons_of_mem x hy)

/-- The operators and operands after the first operand of a chain end as the last operand does. -/
theorem Run.ends_terms {token : ω → Token} {operand : α → List Lexeme → Prop}
    {ops : List (ω × α)} (h : Run (Term token operand) ops ts) (hne : ops ≠ [])
    (hoperand : ∀ x us, x ∈ ops.map Prod.snd → operand x us → endsWithOperand us) :
    endsWithOperand ts := by
  refine h.ends hne fun t us ht hterm => ?_
  cases hterm with
  | mk hx => exact endsWithOperand_cons _ (hoperand _ _ (List.mem_map_of_mem ht) hx)

theorem Step.ends {arg : Expr → List Lexeme → Prop} {s : Segment} (h : Step arg s ts) :
    endsWithOperand ts := by
  cases h with
  | name => rfl
  | call _ => exact endsWithOperand_last (_ :: _ :: _) rfl

theorem Further.ends {arg : Expr → List Lexeme → Prop} {s : Segment} (h : Further arg s ts) :
    endsWithOperand ts := by
  cases h with
  | member hstep => exact endsWithOperand_cons _ hstep.ends
  | key _ => exact endsWithOperand_last (_ :: _) rfl

end Grammar

/-! ### Expressions -/

/-- What is spelled ends with a token that ends an operand. -/
theorem Spells.ends {r : Rank} {e : Expr} {ts : List Lexeme} (h : Spells r e ts) :
    endsWithOperand ts := by
  induction e using Expr.induction_parts generalizing r ts with
  | h e ihParts =>
    induction r using Rank.induction_tighter with
    | h r ih =>
      cases h with
      | lift hr h => exact ih hr h
      | cond _ _ hno =>
        have hends := ihParts _ (by simp [Expr.parts]) hno
        exact endsWithOperand_append _ (endsWithOperand_cons _
          (endsWithOperand_append _ (endsWithOperand_cons _ hends)))
      | any hrest hne _ hrun | all hrest hne _ hrun =>
        subst hrest
        refine endsWithOperand_append _ (hrun.ends_terms (by simpa using hne) ?_)
        exact fun x us hx => ihParts x (List.mem_cons_of_mem _ hx)
      | sum hne _ hrun | product hne _ hrun =>
        refine endsWithOperand_append _ (hrun.ends_terms hne ?_)
        exact fun x us hx => ihParts x (List.mem_cons_of_mem _ hx)
      | compare _ hright =>
        have hends := ihParts _ (by simp [Expr.parts]) hright
        exact endsWithOperand_append _ (endsWithOperand_cons _ hends)
      | function _ hbody =>
        have hends := ihParts _ (List.mem_singleton_self _) hbody
        exact endsWithOperand_append _ (endsWithOperand_cons _ hends)
      | not hoperand =>
        exact endsWithOperand_cons _ (ihParts _ (List.mem_singleton_self _) hoperand)
      | wrapped _ => exact endsWithOperand_last (_ :: _) rfl
      | list _ => exact endsWithOperand_last (_ :: _) rfl
      | map _ => exact endsWithOperand_last (_ :: _) rfl
      | boolean | number | text => rfl
      | path hhead hrun =>
        cases hrun with
        | nil =>
          rw [List.append_nil]
          exact hhead.ends
        | cons hx hxs =>
          refine endsWithOperand_append _ ((Run.cons hx hxs).ends (by simp) ?_)
          exact fun _ _ _ hfurther => hfurther.ends

/-- The tokens that end an operand are the last tokens of the operands that can be spelled. -/
theorem Token.endsOperand_iff (t : Token) :
    t.endsOperand ↔ ∃ e ts p, Spells .operand e (ts ++ [⟨t, p⟩]) := by
  constructor
  · intro h
    cases t with
    | number x => exact ⟨_, [], 0, .number⟩
    | text s => exact ⟨_, [], 0, .text⟩
    | boolean b => exact ⟨_, [], 0, .boolean⟩
    | identifier x =>
      have hname : Spells .operand (.path [.name x]) ([⟨.identifier x, 0⟩] ++ []) := .path .name .nil
      exact ⟨_, [], 0, hname⟩
    | closeParen =>
      have hnumber : Spells .operand (.number 0) [⟨.number 0, 1⟩] := .number
      exact ⟨_, [⟨.openParen, 0⟩, ⟨.number 0, 1⟩], 2, .wrapped hnumber.expression_of_operand⟩
    | closeBracket => exact ⟨_, [⟨.openBracket, 0⟩], 1, .list .nil⟩
    | closeBrace => exact ⟨_, [⟨.openBrace, 0⟩], 1, .map .nil⟩
    | _ => exact absurd h Bool.false_ne_true
  · rintro ⟨e, ts, p, h⟩
    have hends := h.ends
    rw [endsWithOperand_concat] at hends
    exact hends

end HostExpr
