import HostExpr.Eval
import HostExpr.Proofs.Boundaries
import HostExpr.Proofs.CallGate
import HostExpr.Proofs.Locality
import HostExpr.Proofs.NestingLimit

/-!
# Texts inside other texts

Expressions that stand alone as texts can be put between brackets, with commas between them, or
between parentheses.  What they mean does not change.

* `Parse.Phrase`: tokens that are read as an expression wherever they stand;
* `phrase_of_parse`: the tokens of a text that is an expression are such tokens;
* `parse_list`, `parse_wrapped`: texts between brackets and in parentheses;
* `runEach`: one computation after another;
* `evaluate_embedded`: the values of the texts.
-/

namespace HostExpr

namespace Parse

open Stateful Grammar

variable {n : Nat} {sub bang : Parse Expr} {e : Expr} {ts : List Lexeme}

/-! ### Phrases -/

/-- Tokens that a reading takes for a tree before any token that no phrase goes on with. -/
def Phrase (sub : Parse Expr) (e : Expr) (ts : List Lexeme) : Prop :=
  ∀ rest, (first rest).token.goesOn? = none → sub (ts ++ rest) = .ok e rest

theorem Phrase.spells (h : Phrase sub e ts)
    (hsub : Sound (Spells .expression) (·.depth < n) sub) : Spells .expression e ts := by
  obtain ⟨used, ⟨hused, -⟩, hspells, -⟩ := hsub _ _ _ (h [] rfl)
  rw [List.append_nil, List.append_nil] at hused
  exact hused ▸ hspells

/-- Phrases between brackets are a list. -/
theorem phrase_list (hsub : Sound (Spells .expression) (·.depth < n) sub) {es : List Expr}
    (h : Listed (Phrase sub) es ts) (p q : Nat) :
    Phrase (conditional sub bang) (.list es)
      (⟨.openBracket, p⟩ :: (ts ++ [⟨.closeBracket, q⟩])) := by
  intro rest hrest
  have hoffers : Offers (Phrase sub) (fun _ => True) .closeBracket (expression? sub) :=
    offers_expression? rfl rfl (fun h => h.spells hsub) fun h _ => h
  have hitems := listOf_complete hoffers (by simp) h (fun _ _ => trivial)
    (⟨.closeBracket, q⟩ :: rest) rfl
  refine conditional_of_simple ?_ hrest
  rw [List.cons_append, List.append_assoc, simple_of_plain rfl]
  refine (bind_of_ok (peek_apply _)).trans ?_
  exact bracketed_complete (by simp) hitems p

/-- A phrase in parentheses is an expression in parentheses. -/
theorem phrase_wrapped (hsub : Sound (Spells .expression) (·.depth < n) sub) (h : Phrase sub e ts)
    (p q : Nat) :
    Phrase (conditional sub bang) (.wrapped e)
      (⟨.openParen, p⟩ :: (ts ++ [⟨.closeParen, q⟩])) := by
  intro rest hrest
  have hread := h (⟨.closeParen, q⟩ :: rest) rfl
  have harrow : (first rest).token ≠ .arrow :=
    Rank.ne_of_endsBefore (r := .operand) (Rank.endsBefore_of_none hrest) rfl
  refine conditional_of_simple ?_ hrest
  rw [List.cons_append, List.append_assoc]
  refine (simple_of_plain (functionHead?_wrapped (h.spells hsub) p q fun _ _ _ => harrow)).trans ?_
  refine (bind_of_ok (peek_apply _)).trans ?_
  exact bracketed_complete (by simp) hread p

/-- Tokens that are read as an expression up to the end of a text are a phrase wherever they stand. -/
theorem phrase_of_expression {us rest : List Lexeme} {finish : Nat}
    (h : expression n (us ++ [⟨.eof, finish⟩]) = .ok e rest) (hus : ∀ l ∈ us, l.token ≠ .eof)
    (hend : (first rest).token = .eof) (offset : Nat) :
    Phrase (expression n) e (us.map (Lexeme.shift offset)) := by
  intro after hafter
  let m : Move := ⟨finish, offset, after, hafter⟩
  obtain ⟨vs, rfl, hvs, -, hread⟩ := (m.levels_keep n).1 us e rest h
  cases vs with
  | nil => exact hread fun _ => trivial
  | cons l vs => exact absurd hend (hus l (hvs.subset List.mem_cons_self))

end Parse

open Parse Lexer Grammar Stateful

/-! ### Texts -/

theorem Lexer.placed_shift (p offset : Nat) (ss : List Stretch) :
    placed (p + offset) ss = (placed p ss).map (Lexeme.shift offset) := by
  induction ss generalizing p with
  | nil => rfl
  | cons s ss ih =>
    cases s with
    | token t cs =>
      rw [placed, placed, List.map_cons, ← ih, Nat.add_right_comm]
      rfl
    | passed c =>
      rw [placed, placed, ← ih, Nat.add_right_comm]
      · simp
      · simp
    | unclosed cs =>
      rw [placed, placed, ← ih, Nat.add_right_comm]
      · simp
      · simp

/-- The tokens of a text that is an expression are a phrase wherever they stand. -/
theorem phrase_of_parse {source : String} {e : Expr} {n : Nat} (h : parse source = .ok e)
    (hn : e.nesting ≤ n) (p : Nat) :
    Phrase (expression n) e (placed p (stretches false source.toList)) := by
  have htokens := tokens_eq_placed false source.toList 0
  have hparser : (Parser.ofSource source).rest = _ :=
    (congrArg (fun ts => (Parser.ofTokens ts).rest) htokens).trans (Parser.rest_ofTokens_eof _ _)
  obtain ⟨rest, hread⟩ := Parser.exists_of_run h
  rw [hparser, input_eq] at hread
  obtain ⟨hread, hend⟩ := inputOf_cases.1 e rest hread
  have hphrase := phrase_of_expression (expression_of_nesting_le hread hn)
    (fun l hl => ((stretches_divides false source.toList).mem_placed hl).1) hend p
  rw [← placed_shift, Nat.zero_add] at hphrase
  exact hphrase

theorem parse_of_tokens {source : String} {result : Except ParseError Expr} (ls : List Lexeme)
    (htokens : tokenize source = ls) (hread : (Parser.ofTokens ls).input.1 = result) :
    parse source = result := by
  rw [← htokens] at hread
  exact hread

/-- A text whose tokens are a phrase is an expression. -/
theorem parse_of_phrase {source : String} {e : Expr} {ts : List Lexeme} {p : Nat}
    (htokens : tokenize source = ts ++ [⟨.eof, p⟩]) (h : Phrase (expression maxNesting) e ts) :
    parse source = .ok e := by
  have hinput : Parse.input maxNesting (ts ++ [⟨.eof, p⟩]) = .ok e [⟨.eof, p⟩] :=
    bind_of_ok (h [⟨.eof, p⟩] rfl)
  refine parse_of_tokens _ htokens ?_
  unfold Parser.input Parser.run
  rw [Parser.rest_ofTokens_eof, hinput]

/-! ### Between brackets -/

/-- The tokens of texts that are expressions, with commas between them and a bracket after the last. -/
theorem exists_listed_phrases {n : Nat} {sources : List String} {es : List Expr}
    (hparse : sources.map parse = es.map .ok) (hn : ∀ e ∈ es, e.nesting ≤ n)
    (hclosed : ∀ s ∈ sources, Terminated false s.toList) (p : Nat) :
    ∃ ts q, tokens ⟨[','].intercalate (sources.map String.toList) ++ [']'], p, false⟩ =
        ts ++ [⟨.closeBracket, q⟩, ⟨.eof, q + 1⟩] ∧
      Listed (Phrase (expression n)) es ts := by
  induction sources generalizing es p with
  | nil =>
    obtain rfl : es = [] := List.map_eq_nil_iff.1 hparse.symm
    refine ⟨[], p, ?_, .nil⟩
    rw [List.map_nil, List.intercalate_nil, List.nil_append, tokens_closeBracket, tokens_nil]
    rfl
  | cons s sources ih =>
    cases es with
    | nil => exact absurd hparse (by simp)
    | cons e es =>
      obtain ⟨hs, hparse⟩ := List.cons.inj hparse
      obtain ⟨he, hn⟩ := List.forall_mem_cons.1 hn
      obtain ⟨hterminated, hclosed⟩ := List.forall_mem_cons.1 hclosed
      have hphrase := phrase_of_parse hs he p
      cases sources with
      | nil =>
        obtain rfl : es = [] := List.map_eq_nil_iff.1 hparse.symm
        refine ⟨_, p + s.toList.length, ?_, .last hphrase⟩
        rw [List.map_cons, List.map_nil, List.intercalate_singleton,
          tokens_append_of_terminated (endsToken_cons separates_closeBracket []) hterminated,
          tokens_closeBracket, tokens_nil]
      | cons s' sources =>
        obtain ⟨ts, q, htokens, hlisted⟩ := ih hparse hn hclosed (p + s.toList.length + 1)
        refine ⟨_, q, ?_, .cons (p := p + s.toList.length) hphrase hlisted⟩
        rw [List.map_cons, List.map_cons, List.intercalate_cons_cons, List.append_assoc,
          List.append_assoc, List.singleton_append, ← List.map_cons,
          tokens_append_of_terminated (endsToken_cons separates_comma _) hterminated,
          tokens_comma, htokens, List.append_assoc]
        rfl

/-- **Texts between brackets.**  Texts that are expressions are the items of a list, if it is not nested
too deep. -/
theorem parse_list {sources : List String} {es : List Expr}
    (hparse : sources.map parse = es.map .ok) (hn : ∀ e ∈ es, e.nesting ≤ maxNesting - 1)
    (hclosed : ∀ s ∈ sources, Terminated false s.toList) :
    parse ("[" ++ ",".intercalate sources ++ "]") = .ok (.list es) := by
  obtain ⟨ts, q, htokens, hlisted⟩ := exists_listed_phrases hparse hn hclosed 1
  have hsource : ("[" ++ ",".intercalate sources ++ "]").toList =
      '[' :: ([','].intercalate (sources.map String.toList) ++ [']']) := by
    simp [String.toList_append, String.toList_intercalate]
  have hall : tokenize ("[" ++ ",".intercalate sources ++ "]") =
      (⟨.openBracket, 0⟩ :: (ts ++ [⟨.closeBracket, q⟩])) ++ [⟨.eof, q + 1⟩] := by
    unfold tokenize
    rw [hsource, tokens_openBracket, htokens, List.cons_append, List.append_assoc]
    rfl
  have hphrase : Phrase (expression maxNesting) (.list es) _ :=
    phrase_list (levels_sound (maxNesting - 1)).1 hlisted 0 q
  exact parse_of_phrase hall hphrase

/-- **A text in parentheses.** -/
theorem parse_wrapped {source : String} {e : Expr} (hparse : parse source = .ok e)
    (hn : e.nesting ≤ maxNesting - 1) (hclosed : Terminated false source.toList) :
    parse ("(" ++ source ++ ")") = .ok (.wrapped e) := by
  have hsource : ("(" ++ source ++ ")").toList = '(' :: (source.toList ++ [')']) := by
    simp [String.toList_append]
  have hphrase := phrase_of_parse hparse hn 1
  have hall : ∃ q, tokenize ("(" ++ source ++ ")") =
      (⟨.openParen, 0⟩ :: (placed 1 (stretches false source.toList) ++ [⟨.closeParen, q⟩])) ++
        [⟨.eof, q + 1⟩] := by
    refine ⟨1 + source.toList.length, ?_⟩
    unfold tokenize
    rw [hsource, tokens_openParen,
      tokens_append_of_terminated (endsToken_cons separates_closeParen []) hclosed,
      tokens_closeParen, tokens_nil, List.cons_append, List.append_assoc]
    rfl
  obtain ⟨q, htokens⟩ := hall
  have hwrapped : Phrase (expression maxNesting) (.wrapped e) _ :=
    phrase_wrapped (levels_sound (maxNesting - 1)).1 hphrase 0 q
  exact parse_of_phrase htokens hwrapped

/-! ### Values -/

/-- Runs a computation on some inputs from left to right, each in the state that the one before has
left, up to the first failure. -/
def runEach {W ε α β : Type} (run : α → W → Except ε β × W) :
    List α → W → Except ε (List β) × W
  | [], state => (.ok [], state)
  | a :: as, state =>
    match run a state with
    | (.error e, state) => (.error e, state)
    | (.ok b, state) =>
      match runEach run as state with
      | (.error e, state) => (.error e, state)
      | (.ok bs, state) => (.ok (b :: bs), state)

section

variable {W : Type} (hosts : HostInterface W) (context : Context)

theorem evaluate_of_parse {source : String} {e : Expr} (h : parse source = .ok e) (state : W) :
    evaluate hosts context source state =
      match e.eval hosts context.root state with
      | .ok v state => (.ok v, state)
      | .error error state => (.error (.eval error), state) := by
  unfold evaluate Expr.run
  rw [h]
  cases he : e.eval hosts context.root state <;> simp only [he] <;> rfl

/-- Texts that are expressions have the values of the items of a list. -/
theorem runEach_evaluate {sources : List String} {es : List Expr}
    (hparse : sources.map parse = es.map .ok) (state : W) :
    runEach (evaluate hosts context) sources state =
      match evalItems hosts context.root es state with
      | .ok vs state => (.ok vs, state)
      | .error error state => (.error (.eval error), state) := by
  induction sources generalizing es state with
  | nil =>
    obtain rfl : es = [] := List.map_eq_nil_iff.1 hparse.symm
    rw [evalItems]
    rfl
  | cons s sources ih =>
    cases es with
    | nil => exact absurd hparse (by simp)
    | cons e es =>
      simp only [List.map_cons, List.cons.injEq] at hparse
      obtain ⟨hs, hparse⟩ := hparse
      rw [runEach, evaluate_of_parse hosts context hs, evalItems]
      cases he : e.eval hosts context.root state with
      | error error state' => rw [bind_of_error he]
      | ok v state' =>
        rw [bind_of_ok he]
        simp only [ih hparse]
        cases hes : evalItems hosts context.root es state' with
        | error error state'' => rw [bind_of_error hes]
        | ok vs state'' =>
          rw [bind_of_ok hes]
          rfl

end

/-- Texts that are expressions have a list of trees. -/
theorem exists_trees {sources : List String} {P : Expr → Prop}
    (h : ∀ s ∈ sources, ∃ e, parse s = .ok e ∧ P e) :
    ∃ es : List Expr, sources.map parse = es.map .ok ∧ ∀ e ∈ es, P e := by
  induction sources with
  | nil => exact ⟨[], rfl, by simp⟩
  | cons s sources ih =>
    obtain ⟨⟨e, hs, he⟩, h⟩ := List.forall_mem_cons.1 h
    obtain ⟨es, hsources, hes⟩ := ih h
    refine ⟨e :: es, ?_, List.forall_mem_cons.2 ⟨he, hes⟩⟩
    rw [List.map_cons, List.map_cons, hs, hsources]

/-- **Texts inside other texts.**  Let some texts be expressions that leave a level of nesting, and let
each string literal in them be closed.  Then the texts between brackets, with commas between them, are
a list of these expressions; its value is the list of the values of the texts from left to right, or
the first failure among them; and in parentheses each of the texts has the same value and the same
effects as without. -/
theorem evaluate_embedded {W : Type} (hosts : HostInterface W) (context : Context) (state : W)
    (sources : List String) (hclosed : ∀ s ∈ sources, Terminated false s.toList)
    (hparses : ∀ s ∈ sources, ∃ e, parse s = .ok e ∧ e.nesting ≤ maxNesting - 1) :
    (∃ es : List Expr, sources.map parse = es.map .ok ∧
      parse ("[" ++ ",".intercalate sources ++ "]") = .ok (.list es)) ∧
    evaluate hosts context ("[" ++ ",".intercalate sources ++ "]") state =
      ((runEach (evaluate hosts context) sources state).1.map .list,
        (runEach (evaluate hosts context) sources state).2) ∧
    ∀ s ∈ sources, evaluate hosts context ("(" ++ s ++ ")") state =
      evaluate hosts context s state := by
  obtain ⟨es, hparse, hn⟩ := exists_trees hparses
  have hlist := parse_list hparse hn hclosed
  refine ⟨⟨es, hparse, hlist⟩, ?_, fun s hs => ?_⟩
  · rw [evaluate_of_parse hosts context hlist, runEach_evaluate hosts context hparse, Expr.eval]
    cases hitems : evalItems hosts context.root es state with
    | error error state' => rw [bind_of_error hitems]; rfl
    | ok vs state' => rw [bind_of_ok hitems]; rfl
  · obtain ⟨e, he, hne⟩ := hparses s hs
    have hwrapped := parse_wrapped he hne (hclosed s hs)
    rw [evaluate_of_parse hosts context hwrapped, evaluate_of_parse hosts context he, Expr.eval]

/-- The text between the two calls holds what would end it outside of the quotes; the first call
makes the second one fail. -/
theorem evaluate_embedded_freezing :
    evaluate Expr.freezing ⟨.host ⟨0, "account"⟩⟩ "[freeze(),',]',pay()]" false =
        (.error (.eval (.methodNotAllowed "account" "pay")), true) ∧
      evaluate Expr.freezing ⟨.host ⟨0, "account"⟩⟩ "(freeze())" false = (.ok .null, true) := by
  have hfreeze : parse "freeze()" = .ok (.path [.call "freeze" []]) :=
    parse_of_tokens [⟨.identifier "freeze", 0⟩, ⟨.openParen, 6⟩, ⟨.closeParen, 7⟩, ⟨.eof, 8⟩]
      (by decide +kernel) rfl
  have htext : parse "',]'" = .ok (.text ",]") :=
    parse_of_tokens [⟨.text ",]", 0⟩, ⟨.eof, 4⟩] (by decide +kernel) rfl
  have hpay : parse "pay()" = .ok (.path [.call "pay" []]) :=
    parse_of_tokens [⟨.identifier "pay", 0⟩, ⟨.openParen, 3⟩, ⟨.closeParen, 4⟩, ⟨.eof, 5⟩]
      (by decide +kernel) rfl
  have hparses : ∀ s ∈ ["freeze()", "',]'", "pay()"],
      ∃ e, parse s = .ok e ∧ e.nesting ≤ maxNesting - 1 := by
    simp only [List.forall_mem_cons]
    exact ⟨⟨_, hfreeze, by decide +kernel⟩, ⟨_, htext, by decide +kernel⟩,
      ⟨_, hpay, by decide +kernel⟩, by simp⟩
  have hclosed : ∀ s ∈ ["freeze()", "',]'", "pay()"], Terminated false s.toList := by
    decide +kernel
  obtain ⟨-, hlist, hwrapped⟩ := evaluate_embedded Expr.freezing ⟨.host ⟨0, "account"⟩⟩ false
    ["freeze()", "',]'", "pay()"] hclosed hparses
  have htrees : ["freeze()", "',]'", "pay()"].map parse =
      [.path [.call "freeze" []], .text ",]", .path [.call "pay" []]].map .ok := by
    simp only [List.map_cons, List.map_nil, hfreeze, htext, hpay]
  have hvalues : runEach (evaluate Expr.freezing ⟨.host ⟨0, "account"⟩⟩)
      ["freeze()", "',]'", "pay()"] false =
        (.error (.eval (.methodNotAllowed "account" "pay")), true) :=
    runEach_evaluate Expr.freezing _ htrees false
  refine ⟨?_, ?_⟩
  · rw [hvalues] at hlist
    exact hlist
  · have h := hwrapped "freeze()" (by simp)
    rw [evaluate_of_parse _ _ hfreeze] at h
    exact h

end HostExpr
