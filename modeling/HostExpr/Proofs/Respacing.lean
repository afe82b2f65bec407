import HostExpr.Proofs.Lockstep
import HostExpr.Proofs.Stretches

/-!
# The same tokens at other positions

Positions decide nothing but whether a `!` is attached to its operand.  Where the same tokens stand at
other positions, they are read alike, and an error is reported at the same token.

* `AttachedAt`: a token stands directly before the next one;
* `Respaced`: the same tokens, each `!` of them attached in both lists or in neither;
* `SameOutcome`: the same tree, or the same error at the token with the same index;
* `Parse.respacing`: the pairing of two such lists, index by index, with `Parse.respaced_agree`;
* `Parser.input_respaced`: such lists, and texts with such tokens, have the same outcome.
-/

namespace HostExpr

/-- The token at an index stands directly before the next one. -/
def AttachedAt (ts : List Lexeme) (i : Nat) : Prop :=
  ∃ l ∈ ts[i]?, ∃ m ∈ ts[i + 1]?, m.position = l.position + 1

instance (ts : List Lexeme) (i : Nat) : Decidable (AttachedAt ts i) :=
  inferInstanceAs (Decidable (∃ l ∈ ts[i]?, ∃ m ∈ ts[i + 1]?, m.position = l.position + 1))

/-- The same tokens in the same order, where each `!` stands directly before the token after it in both
lists or in neither. -/
structure Respaced (ts us : List Lexeme) : Prop where
  tokens : us.map Lexeme.token = ts.map Lexeme.token
  attached : ∀ i, ts[i]?.map Lexeme.token = some .bang → (AttachedAt us i ↔ AttachedAt ts i)

/-- The same tree, or the same error, which is reported in the two lists of tokens at the token with the
same index. -/
inductive SameOutcome (ts us : List Lexeme) : Except ParseError Expr → Except ParseError Expr → Prop
  | tree (e : Expr) : SameOutcome ts us (.ok e) (.ok e)
  | error (e : ParseError) {i : Nat} {l m : Lexeme} : ts[i]? = some l → us[i]? = some m →
      SameOutcome ts us (.error (e.relocate l)) (.error (e.relocate m))

namespace Respaced

variable {ts us : List Lexeme}

theorem length (h : Respaced ts us) : us.length = ts.length := by
  simpa using congrArg List.length h.tokens

theorem token (h : Respaced ts us) {i : Nat} (hts : i < ts.length) (hus : i < us.length) :
    us[i].token = ts[i].token := by
  have htokens := congrArg (fun ts : List Token => ts[i]?) h.tokens
  simpa [hts, hus] using htokens

end Respaced

theorem attachedAt_iff {ts : List Lexeme} {i : Nat} (hi : i + 1 < ts.length) :
    AttachedAt ts i ↔ ts[i + 1].position = ts[i].position + 1 := by
  unfold AttachedAt
  rw [List.getElem?_eq_getElem hi, List.getElem?_eq_getElem (Nat.lt_of_succ_lt hi)]
  simp

theorem attachedAt_append {ts : List Lexeme} {i : Nat} (hi : i + 1 < ts.length) (us : List Lexeme) :
    AttachedAt (ts ++ us) i ↔ AttachedAt ts i := by
  unfold AttachedAt
  rw [List.getElem?_append_left hi, List.getElem?_append_left (Nat.lt_of_succ_lt hi)]

namespace Parse

open Stateful

variable {ts us : List Lexeme}

/-! ### Index by index -/

theorem first_drop {i : Nat} (hi : i < ts.length) : first (ts.drop i) = ts[i] := by
  rw [List.drop_eq_getElem_cons hi]
  rfl

theorem afterFirst_drop {i : Nat} (hi : i < ts.length) (hne : ts[i].token ≠ .eof) :
    afterFirst (ts.drop i) = ts.drop (i + 1) := by
  rw [List.drop_eq_getElem_cons hi, afterFirst_cons hne]

theorem afterFirst_of_eof (h : (first ts).token = .eof) : afterFirst ts = ts := by
  cases ts with
  | nil => rfl
  | cons l ts => exact if_pos h

/-- A list that ends with the end of the text goes on after each other token. -/
theorem succ_lt_of_ne_eof {vs : List Lexeme} {p : Nat} (hts : ts = vs ++ [⟨.eof, p⟩]) {i : Nat}
    (hi : i < ts.length) (hne : ts[i].token ≠ .eof) : i + 1 < ts.length := by
  subst hts
  rw [List.length_append, List.length_singleton] at hi ⊢
  refine Nat.succ_lt_succ (Nat.lt_of_le_of_ne (Nat.le_of_lt_succ hi) ?_)
  rintro rfl
  exact hne (by simp)

/-- The same tokens at other positions, and errors at the same tokens. -/
def respacing (h : Respaced ts us) (hend : ∃ vs p, ts = vs ++ [⟨.eof, p⟩]) : Pairing where
  Paired _ vs ws := ∃ i, i < ts.length ∧ vs = ts.drop i ∧ ws = us.drop i
  Fails e f := ∃ g i l m, ts[i]? = some l ∧ us[i]? = some m ∧
    e = ParseError.relocate g l ∧ f = ParseError.relocate g m
  GivesUp _ := False
  mono h := h
  length := by
    rintro _ _ _ ⟨i, -, rfl, rfl⟩
    rw [List.length_drop, List.length_drop, h.length]
  token := by
    rintro _ _ _ ⟨i, hi, rfl, rfl⟩
    have hi' : i < us.length := h.length ▸ hi
    rw [first_drop hi, first_drop hi', h.token hi hi']
  skip := by
    rintro _ _ _ ⟨i, hi, rfl, rfl⟩
    have hi' : i < us.length := h.length ▸ hi
    by_cases heof : ts[i].token = .eof
    · rw [afterFirst_of_eof (by rwa [first_drop hi]),
        afterFirst_of_eof (by rwa [first_drop hi', h.token hi hi'])]
      exact ⟨i, hi, rfl, rfl⟩
    · obtain ⟨vs, p, hts⟩ := hend
      rw [afterFirst_drop hi heof, afterFirst_drop hi' (by rwa [h.token hi hi'])]
      exact ⟨i + 1, succ_lt_of_ne_eof hts hi heof, rfl, rfl⟩
  next := by
    rintro _ _ _ ⟨i, hi, rfl, rfl⟩ hne
    have hi' : i < us.length := h.length ▸ hi
    rw [first_drop hi] at hne
    obtain ⟨vs, p, hts⟩ := hend
    rw [afterFirst_drop hi hne, afterFirst_drop hi' (by rwa [h.token hi hi'])]
    exact ⟨i + 1, succ_lt_of_ne_eof hts hi hne, rfl, rfl⟩
  attached := by
    rintro _ _ _ ⟨i, hi, rfl, rfl⟩ hbang
    have hi' : i < us.length := h.length ▸ hi
    rw [first_drop hi] at hbang
    have hne : ts[i].token ≠ .eof := by simp [hbang]
    obtain ⟨vs, p, hts⟩ := hend
    have hnext := succ_lt_of_ne_eof hts hi hne
    have hnext' : i + 1 < us.length := h.length ▸ hnext
    rw [afterFirst_drop hi hne, afterFirst_drop hi' (by rwa [h.token hi hi']), first_drop hnext,
      first_drop hnext', first_drop hi, first_drop hi', ← attachedAt_iff hnext,
      ← attachedAt_iff hnext']
    exact h.attached i (by simp [hi, hbang])
  fails := by
    rintro _ _ _ f ⟨i, hi, rfl, rfl⟩ hf
    have hi' : i < us.length := h.length ▸ hi
    rw [first_drop hi, first_drop hi']
    exact ⟨f ts[i], i, ts[i], us[i], List.getElem?_eq_getElem hi, List.getElem?_eq_getElem hi',
      (hf.relocate _ _).symm, (hf.relocate _ _).symm⟩

/-! ### Readings -/

variable (h : Respaced ts us) (hend : ∃ vs p, ts = vs ++ [⟨.eof, p⟩])

theorem respaced_agree (n : Nat) :
    (respacing h hend).Agree n (·.depth < n) (expression n) (expression n) ∧
      (respacing h hend).Agree n (·.depth < n) (operand n) (operand n) := by
  induction n with
  | zero =>
    have hdeep : (respacing h hend).Agree 0 (fun e : Expr => e.depth < 0) tooDeep tooDeep := by
      rintro _ _ ⟨i, hi, rfl, rfl⟩
      have hi' : i < us.length := h.length ▸ hi
      refine .error ⟨.tooDeep 0, i, ts[i], us[i], List.getElem?_eq_getElem hi,
        List.getElem?_eq_getElem hi', ?_, ?_⟩ ⟨i, hi, rfl, rfl⟩
      · rw [first_drop hi]
        rfl
      · rw [first_drop hi']
        rfl
    exact ⟨hdeep, hdeep⟩
  | succ n ih => exact ⟨Pairing.conditional_agree ih.1 ih.2, Pairing.simple_agree ih.1 ih.2⟩

theorem input_agree (limit : Nat) :
    (respacing h hend).Agree limit (·.depth < limit) (input limit) (input limit) := by
  refine (respaced_agree h hend limit).1.bind (fun e => ?_) ?_
  · intro vs ws hpaired
    refine Pairing.Agree.peeked ?_
    rw [(respacing h hend).token hpaired]
    split
    · exact .ok hpaired
    · exact Pairing.Agree.unexpected .endOfInput vs ws hpaired
  · intro e e' vs ws he hlt
    obtain ⟨l, xs, -, he⟩ := bind_eq_ok.1 he
    split at he
    · obtain ⟨rfl, -⟩ := pure_eq_ok.1 he
      exact hlt
    · exact absurd he throw_ne_ok

end Parse

namespace Parser

variable {ts us : List Lexeme}

/-- The end of the text is added to both lists or to neither. -/
theorem respaced_ofTokens (h : Respaced ts us) : Respaced (ofTokens ts).rest (ofTokens us).rest := by
  obtain rfl | ⟨vs, l, rfl⟩ := List.eq_nil_or_concat ts
  · obtain rfl : us = [] := List.length_eq_zero_iff.1 h.length
    exact ⟨rfl, fun i hi => absurd hi (by cases i <;> simp [ofTokens])⟩
  obtain rfl | ⟨ws, m, rfl⟩ := List.eq_nil_or_concat us
  · exact absurd h.length (by simp)
  rw [List.concat_eq_append, List.concat_eq_append] at h ⊢
  obtain ⟨hvs, hm⟩ : ws.map Lexeme.token = vs.map Lexeme.token ∧ m.token = l.token := by
    have htokens := h.tokens
    rw [List.map_append, List.map_append] at htokens
    obtain ⟨hvs, hm⟩ := List.append_inj' htokens rfl
    exact ⟨hvs, by simpa using hm⟩
  have hlength : ws.length = vs.length := by simpa using congrArg List.length hvs
  rw [rest_ofTokens_concat, rest_ofTokens_concat, hm]
  by_cases heof : l.token = .eof
  · rw [if_pos heof, if_pos heof]
    exact h
  rw [if_neg heof, if_neg heof]
  refine ⟨by simp [hvs, hm], fun i hbang => ?_⟩
  obtain hi | rfl | hi := Nat.lt_trichotomy i vs.length
  · -- both tokens are among those that were there before
    have hnext : i + 1 < (vs ++ [l]).length := by simpa using hi
    rw [List.getElem?_append_left (Nat.lt_of_succ_lt hnext)] at hbang
    rw [attachedAt_append hnext, attachedAt_append (h.length ▸ hnext)]
    exact h.attached i hbang
  · -- the end of the text is attached to the last token in both lists
    have hlast : ∀ (vs : List Lexeme) (l : Lexeme),
        AttachedAt (vs ++ [l] ++ [⟨.eof, l.position + 1⟩]) vs.length := by
      intro vs l
      exact ⟨l, by simp, ⟨.eof, l.position + 1⟩, by simp, rfl⟩
    exact ⟨fun _ => hlast vs l, fun _ => hlength ▸ hlast ws m⟩
  · obtain ⟨k, rfl⟩ := Nat.exists_eq_add_of_lt hi
    rw [List.getElem?_append_right (by simp)] at hbang
    cases k with
    | zero => exact absurd hbang (by simp)
    | succ k => exact absurd hbang (by simp)

theorem rest_ofTokens_tokenize (source : String) :
    (ofTokens (tokenize source)).rest = tokenize source := by
  unfold tokenize
  rw [Lexer.tokens_eq_placed, rest_ofTokens_eof]

/-- **Positions matter after a `!` only.**  The same tokens, where each `!` stands directly before the
token after it in both lists or in neither, are read as the same tree, or with the same error at the
token with the same index.  So are texts with such tokens, however they are spaced. -/
theorem input_respaced :
    (∀ ts us, Respaced ts us →
      SameOutcome (ofTokens ts).rest (ofTokens us).rest (ofTokens ts).input.1
        (ofTokens us).input.1) ∧
    ∀ source source', Respaced (tokenize source) (tokenize source') →
      SameOutcome (tokenize source) (tokenize source') (parse source) (parse source') := by
  have hlists : ∀ ts us, Respaced ts us →
      SameOutcome (ofTokens ts).rest (ofTokens us).rest (ofTokens ts).input.1
        (ofTokens us).input.1 := by
    intro ts us h
    have hbuffers := respaced_ofTokens h
    have hend := exists_ofTokens_eq ts
    have hpos : 0 < (ofTokens ts).rest.length := by
      obtain ⟨vs, p, hts⟩ := hend
      simp [hts]
    have hout := Parse.input_agree hbuffers hend maxNesting _ _ ⟨0, hpos, rfl, rfl⟩
    rw [List.drop_zero, List.drop_zero] at hout
    unfold input run
    generalize Parse.input maxNesting (ofTokens ts).rest = a at hout ⊢
    generalize Parse.input maxNesting (ofTokens us).rest = b at hout ⊢
    cases hout with
    | ok _ => exact .tree _
    | error hfails _ =>
      obtain ⟨g, i, l, m, hl, hm, rfl, rfl⟩ := hfails
      exact .error g hl hm
    | givesUp hgives _ => exact absurd hgives id
  refine ⟨hlists, fun source source' h => ?_⟩
  have hout := hlists _ _ h
  rw [rest_ofTokens_tokenize, rest_ofTokens_tokenize] at hout
  exact hout

/-- The second `!` is detached in both texts, by one blank and by two. -/
theorem input_respaced_detached :
    SameOutcome (tokenize "!a + ! b") (tokenize "!a+!  b") (.error (.detachedNot 5))
      (.error (.detachedNot 3)) := by
  have htokens : tokenize "!a + ! b" = [⟨.bang, 0⟩, ⟨.identifier "a", 1⟩, ⟨.plus, 3⟩, ⟨.bang, 5⟩,
      ⟨.identifier "b", 7⟩, ⟨.eof, 8⟩] := by decide +kernel
  have htokens' : tokenize "!a+!  b" = [⟨.bang, 0⟩, ⟨.identifier "a", 1⟩, ⟨.plus, 2⟩, ⟨.bang, 3⟩,
      ⟨.identifier "b", 6⟩, ⟨.eof, 7⟩] := by decide +kernel
  have hrespaced : Respaced (tokenize "!a + ! b") (tokenize "!a+!  b") := by
    rw [htokens, htokens']
    refine ⟨rfl, fun i hbang => ?_⟩
    match i with
    | 0 => decide
    | 3 => decide
    | 1 | 2 | 4 | 5 => exact absurd hbang (by simp)
    | _ + 6 => exact absurd hbang (by simp)
  have hread : parse "!a + ! b" = .error (.detachedNot 5) := by
    unfold parse ofSource
    rw [htokens]
    rfl
  have hread' : parse "!a+!  b" = .error (.detachedNot 3) := by
    unfold parse ofSource
    rw [htokens']
    rfl
  have hout := input_respaced.2 "!a + ! b" "!a+!  b" hrespaced
  rw [hread, hread'] at hout
  exact hout

end Parser

end HostExpr
