import HostExpr.Proofs.Lockstep

/-!
# The limit of the nesting

A reading with a limit does the same as one without, or it reports that something is nested too deep,
and it does the latter exactly where the tree is nested too deep.

* `Parse.levels_agree`: more levels change nothing where the levels are enough, and where they are not
  the tree has more;
* `Parse.unlimited`, `Parse.unlimitedOperand`: the rules without a limit, with `Parse.unlimited_eq`;
* `Parser.nesting_limit_exact`: trees are refused exactly above the limit.

Whatever is nested is read after some token, so that as many levels as there are tokens are enough.
-/

namespace HostExpr

namespace Parse

open Stateful

/-! ### Fewer and more levels -/

/-- The same tokens and errors; the first reading may give up because no level is left. -/
def fewerLevels : Pairing where
  Paired _ ts us := us = ts
  Fails e f := f = e
  GivesUp e := ∃ p, e = .tooDeep p
  mono h := h
  length h := congrArg List.length h
  token h := congrArg (fun ts => (first ts).token) h
  skip h := congrArg afterFirst h
  next h _ := congrArg afterFirst h
  attached h _ := by rw [h]
  fails h _ := by rw [h]

theorem levels_agree {n m : Nat} (h : n ≤ m) :
    fewerLevels.Agree n (·.depth < n) (expression n) (expression m) ∧
      fewerLevels.Agree n (·.depth < n) (operand n) (operand m) := by
  induction n generalizing m with
  | zero =>
    have hdeep : ∀ q : Parse Expr, fewerLevels.Agree 0 (·.depth < 0) tooDeep q := by
      intro q ts us _
      exact .givesUp ⟨(first ts).position, rfl⟩ fun e vs _ => Nat.not_lt_zero _
    exact ⟨hdeep _, hdeep _⟩
  | succ n ih =>
    cases m with
    | zero => exact absurd h (Nat.not_succ_le_zero n)
    | succ m =>
      obtain ⟨hsub, hbang⟩ := ih (Nat.le_of_succ_le_succ h)
      exact ⟨Pairing.conditional_agree hsub hbang, Pairing.simple_agree hsub hbang⟩

/-- With fewer levels, a reading does the same, or fails because no level is left while the tree has
no fewer levels. -/
theorem fewerLevels_cases {n : Nat} {a b : EStateM.Result ParseError (List Lexeme) Expr}
    (h : fewerLevels.Outcome n (·.depth < n) a b) :
    a = b ∨ (∃ p rest, a = .error (.tooDeep p) rest) ∧ ∀ e rest, b = .ok e rest → n ≤ e.depth := by
  cases h with
  | ok h => exact .inl (congrArg _ h.symm)
  | error hfails h =>
    subst hfails h
    exact .inl rfl
  | givesUp hgives hnot =>
    obtain ⟨p, rfl⟩ := hgives
    exact .inr ⟨⟨p, _, rfl⟩, fun e rest he => Nat.le_of_not_lt (hnot e rest he)⟩

/-! ### Levels enough -/

theorem length_afterFirst_le (ts : List Lexeme) : (afterFirst ts).length ≤ ts.length := by
  cases ts with
  | nil => exact Nat.le_refl 0
  | cons l ts =>
    show (if l.token = .eof then l :: ts else ts).length ≤ (l :: ts).length
    split
    · exact Nat.le_refl _
    · exact Nat.le_succ _

/-- The same tokens, fewer of them than there are levels, and the same errors, none of which says that
no level is left. -/
def enoughLevels : Pairing where
  Paired k ts us := us = ts ∧ ts.length < k
  Fails e f := f = e ∧ ∀ p, e ≠ .tooDeep p
  GivesUp _ := False
  mono h := ⟨h.1, Nat.lt_succ_of_lt h.2⟩
  length h := congrArg List.length h.1
  token h := congrArg (fun ts => (first ts).token) h.1
  skip h := by
    obtain ⟨rfl, hlt⟩ := h
    exact ⟨rfl, Nat.lt_of_le_of_lt (length_afterFirst_le _) hlt⟩
  next h hne := by
    obtain ⟨rfl, hlt⟩ := h
    rw [eq_first_cons hne] at hlt
    exact ⟨rfl, Nat.lt_of_succ_lt_succ hlt⟩
  attached h _ := by rw [h.1]
  fails h hf := by
    rw [h.1]
    refine ⟨rfl, ?_⟩
    cases hf <;> simp

theorem enoughLevels_eq {k : Nat} {P : Expr → Prop}
    {a b : EStateM.Result ParseError (List Lexeme) Expr} (h : enoughLevels.Outcome k P a b) :
    b = a ∧ ∀ p rest, a ≠ .error (.tooDeep p) rest := by
  cases h with
  | ok h => exact ⟨congrArg _ h.1, by simp⟩
  | error hfails h =>
    obtain ⟨rfl, hnot⟩ := hfails
    refine ⟨congrArg _ h.1, ?_⟩
    rintro p rest ⟨⟩
    exact hnot p rfl
  | givesUp hgives _ => exact absurd hgives id

theorem enough_agree (k : Nat) :
    enoughLevels.Agree k (·.depth < k) (expression k) (expression k) ∧
      enoughLevels.Agree k (·.depth < k) (operand k) (operand k) := by
  induction k with
  | zero => exact ⟨fun _ _ h => absurd h.2 (Nat.not_lt_zero _),
      fun _ _ h => absurd h.2 (Nat.not_lt_zero _)⟩
  | succ k ih =>
    exact ⟨Pairing.conditional_agree ih.1 ih.2, Pairing.simple_agree ih.1 ih.2⟩

/-- An expression without a limit of its nesting.  There cannot be more levels than tokens. -/
def unlimited : Parse Expr :=
  fun ts => expression (ts.length + 1) ts

/-- The operand of a `!` without a limit of its nesting. -/
def unlimitedOperand : Parse Expr :=
  fun ts => operand (ts.length + 1) ts

/-- With more levels than tokens, further levels change nothing. -/
theorem eq_of_enough {n : Nat} {p q : Parse Expr} {ts : List Lexeme}
    (hlength : ts.length < n) (hself : enoughLevels.Agree n (·.depth < n) p p)
    (hfewer : fewerLevels.Agree n (·.depth < n) p q) : q ts = p ts := by
  obtain heq | ⟨⟨pos, rest, hdeep⟩, -⟩ := fewerLevels_cases (hfewer ts ts rfl)
  · exact heq.symm
  · exact absurd hdeep ((enoughLevels_eq (hself ts ts ⟨rfl, hlength⟩)).2 pos rest)

theorem unlimited_of_lt {k : Nat} {ts : List Lexeme} (h : ts.length < k) :
    expression k ts = unlimited ts ∧ operand k ts = unlimitedOperand ts := by
  obtain ⟨hsub, hbang⟩ := enough_agree (ts.length + 1)
  obtain ⟨hfewerSub, hfewerBang⟩ := levels_agree (Nat.succ_le_of_lt h)
  have hsame : expression k ts = expression (ts.length + 1) ts :=
    eq_of_enough (Nat.lt_succ_self _) hsub hfewerSub
  have hsame' : operand k ts = operand (ts.length + 1) ts :=
    eq_of_enough (Nat.lt_succ_self _) hbang hfewerBang
  exact ⟨hsame, hsame'⟩

theorem unlimited_agree (k : Nat) :
    enoughLevels.Agree k (·.depth < k) (expression k) unlimited ∧
      enoughLevels.Agree k (·.depth < k) (operand k) unlimitedOperand := by
  obtain ⟨hsub, hbang⟩ := enough_agree k
  constructor
  · rintro ts us ⟨rfl, hlt⟩
    rw [← (unlimited_of_lt hlt).1]
    exact hsub us us ⟨rfl, hlt⟩
  · rintro ts us ⟨rfl, hlt⟩
    rw [← (unlimited_of_lt hlt).2]
    exact hbang us us ⟨rfl, hlt⟩

/-- The readings without a limit follow the rules of the parser, with themselves for what is nested. -/
theorem unlimited_eq :
    unlimited = conditional unlimited unlimitedOperand ∧
      unlimitedOperand = simple unlimited unlimitedOperand := by
  constructor
  · funext ts
    obtain ⟨hsub, hbang⟩ := unlimited_agree ts.length
    have hout := Pairing.conditional_agree hsub hbang ts ts ⟨rfl, Nat.lt_succ_self _⟩
    exact (enoughLevels_eq hout).1.symm
  · funext ts
    obtain ⟨hsub, hbang⟩ := unlimited_agree ts.length
    have hout := Pairing.simple_agree hsub hbang ts ts ⟨rfl, Nat.lt_succ_self _⟩
    exact (enoughLevels_eq hout).1.symm

theorem unlimited_ne_tooDeep (ts : List Lexeme) (p : Nat) (rest : List Lexeme) :
    unlimited ts ≠ .error (.tooDeep p) rest :=
  (enoughLevels_eq ((enough_agree (ts.length + 1)).1 ts ts ⟨rfl, Nat.lt_succ_self _⟩)).2 p rest

/-- A reading with some levels does the same as one without a limit, or fails because no level is left
while the tree has no fewer levels. -/
theorem expression_cases (n : Nat) (ts : List Lexeme) :
    expression n ts = unlimited ts ∨
      (∃ p rest, expression n ts = .error (.tooDeep p) rest) ∧
        ∀ e rest, unlimited ts = .ok e rest → n ≤ e.depth := by
  have hlt : ts.length < max n (ts.length + 1) := Nat.lt_of_lt_of_le (Nat.lt_succ_self _)
    (Nat.le_max_right ..)
  rw [← (unlimited_of_lt hlt).1]
  exact fewerLevels_cases ((levels_agree (Nat.le_max_left ..)).1 ts ts rfl)

/-- A tree that is read with some levels is read with any number of levels that it fits in. -/
theorem expression_of_nesting_le {n m : Nat} {e : Expr} {ts rest : List Lexeme}
    (h : expression m ts = .ok e rest) (hn : e.nesting ≤ n) : expression n ts = .ok e rest := by
  have hread : unlimited ts = .ok e rest := by
    obtain heq | ⟨⟨p, rest', hdeep⟩, -⟩ := expression_cases m ts
    · exact heq.symm.trans h
    · rw [hdeep] at h
      exact absurd h (by simp)
  obtain heq | ⟨-, hdepth⟩ := expression_cases n ts
  · exact heq.trans hread
  · exact absurd (hdepth e rest hread) (Nat.not_le_of_lt hn)

/-- What an expression is read with, and nothing after it. -/
def inputOf (reading : Parse Expr) : Parse Expr := do
  let e ← reading
  if (← peek).token = .eof then return e else unexpected .endOfInput

theorem input_eq (limit : Nat) : input limit = inputOf (expression limit) := rfl

/-- Something is left after what has been read, or only the end of the text. -/
theorem inputOf_of_ok {p : Parse Expr} {e : Expr} {ts rest : List Lexeme} (h : p ts = .ok e rest) :
    inputOf p ts = if (first rest).token = .eof then .ok e rest
      else .error (.unexpected .endOfInput (first rest)) rest := by
  refine (bind_of_ok h).trans ?_
  refine (bind_of_ok (peek_apply rest)).trans ?_
  split
  · rfl
  · rfl

/-- Looking for the end takes nothing away and adds no report that something is nested too deep. -/
theorem inputOf_cases {p : Parse Expr} {ts : List Lexeme} :
    (∀ e rest, inputOf p ts = .ok e rest → p ts = .ok e rest ∧ (first rest).token = .eof) ∧
      ∀ pos rest, inputOf p ts = .error (.tooDeep pos) rest → p ts = .error (.tooDeep pos) rest := by
  cases hp : p ts with
  | error e us =>
    have hinput : inputOf p ts = .error e us := bind_of_error hp
    rw [hinput]
    exact ⟨by simp, fun _ _ h => h⟩
  | ok e us =>
    rw [inputOf_of_ok hp]
    split
    · next heof =>
      refine ⟨?_, by simp⟩
      rintro _ _ ⟨⟩
      exact ⟨rfl, heof⟩
    · exact ⟨by simp, by simp⟩

end Parse

namespace Parser

open Stateful

/-- Reads an expression that all remaining tokens belong to, without a limit of its nesting. -/
def unlimitedInput (parser : Parser) : Except ParseError Expr × Parser :=
  parser.run (Parse.inputOf Parse.unlimited)

theorem input_cases (parser : Parser) :
    parser.unlimitedInput = parser.input ∨
      (∃ p, parser.input.1 = .error (.tooDeep p)) ∧
        ∀ e, parser.unlimitedInput.1 = .ok e → maxNesting < e.nesting := by
  obtain heq | ⟨⟨p, rest, hdeep⟩, hdepth⟩ := Parse.expression_cases maxNesting parser.rest
  · exact .inl (run_congr (bind_congr_left heq.symm))
  · have hinput : Parse.input maxNesting parser.rest = .error (.tooDeep p) rest := bind_of_error hdeep
    refine .inr ⟨⟨p, congrArg Prod.fst (run_of_error hinput)⟩, fun e he => ?_⟩
    obtain ⟨rest', hread⟩ := exists_of_run he
    exact Nat.lt_succ_of_le (hdepth e rest' (Parse.inputOf_cases.1 e rest' hread).1)

/-- **The limit of the nesting.**  The readings without a limit follow the rules of the parser and
never report that something is nested too deep.  Unless the reading with the limit reports this, the
reading without a limit does the same.  A tree that is read without a limit is read with it if its
nesting is within the limit, and else is reported to be too deep; so whatever is read is within the
limit. -/
theorem nesting_limit_exact (parser : Parser) :
    (Parse.unlimited = Parse.conditional Parse.unlimited Parse.unlimitedOperand ∧
      Parse.unlimitedOperand = Parse.simple Parse.unlimited Parse.unlimitedOperand) ∧
    (∀ p, parser.unlimitedInput.1 ≠ .error (.tooDeep p)) ∧
    ((∀ p, parser.input.1 ≠ .error (.tooDeep p)) → parser.unlimitedInput = parser.input) ∧
    (∀ e, parser.unlimitedInput.1 = .ok e →
      if e.nesting ≤ maxNesting then parser.input.1 = .ok e
      else ∃ p, parser.input.1 = .error (.tooDeep p)) ∧
    ∀ e, parser.input.1 = .ok e → e.nesting ≤ maxNesting := by
  have hnever : ∀ p, parser.unlimitedInput.1 ≠ .error (.tooDeep p) := by
    intro p h
    obtain ⟨rest, hread⟩ := exists_of_run_error h
    exact Parse.unlimited_ne_tooDeep _ _ _ (Parse.inputOf_cases.2 p rest hread)
  have hwithin : ∀ e, parser.input.1 = .ok e → e.nesting ≤ maxNesting := by
    intro e h
    obtain ⟨rest, hread⟩ := exists_of_run h
    exact (Parse.input_sound hread).2
  refine ⟨Parse.unlimited_eq, hnever, fun hnot => ?_, fun e he => ?_, hwithin⟩
  · obtain heq | ⟨⟨p, hp⟩, -⟩ := input_cases parser
    · exact heq
    · exact absurd hp (hnot p)
  · obtain heq | ⟨hdeep, hnesting⟩ := input_cases parser
    · have hinput : parser.input.1 = .ok e := heq ▸ he
      rw [if_pos (hwithin e hinput)]
      exact hinput
    · rw [if_neg (Nat.not_le_of_lt (hnesting e he))]
      exact hdeep

set_option maxRecDepth 5000 in
/-- As many `!` as the limit has levels, and one less, before a name. -/
theorem nesting_limit_exact_negations :
    (ofTokens ((List.range 47).map (⟨.bang, ·⟩) ++ [⟨.identifier "x", 47⟩])).input.1 =
      .ok (Nat.repeat .not 47 (.path [.name "x"])) ∧
    ∃ p, (ofTokens ((List.range 48).map (⟨.bang, ·⟩) ++ [⟨.identifier "x", 48⟩])).input.1 =
      .error (.tooDeep p) := by
  have hwithin : (Nat.repeat .not 47 (Expr.path [.name "x"])).nesting ≤ maxNesting := by
    decide +kernel
  have habove : ¬ (Nat.repeat .not 48 (Expr.path [.name "x"])).nesting ≤ maxNesting := by
    decide +kernel
  obtain ⟨-, -, -, hread, -⟩ := nesting_limit_exact
    (ofTokens ((List.range 47).map (⟨.bang, ·⟩) ++ [⟨.identifier "x", 47⟩]))
  obtain ⟨-, -, -, hrefused, -⟩ := nesting_limit_exact
    (ofTokens ((List.range 48).map (⟨.bang, ·⟩) ++ [⟨.identifier "x", 48⟩]))
  have hok := hread (Nat.repeat .not 47 (Expr.path [.name "x"])) rfl
  have herror := hrefused (Nat.repeat .not 48 (Expr.path [.name "x"])) rfl
  rw [if_pos hwithin] at hok
  rw [if_neg habove] at herror
  exact ⟨hok, herror⟩

end Parser

end HostExpr
