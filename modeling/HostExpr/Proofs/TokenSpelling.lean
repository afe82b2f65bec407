import HostExpr.Proofs.Scanning

/-!
# How tokens are spelled

What the characters of a token are, without a scanner, and that a step of a scan finds such
characters.

* `Lexer.Longest`: a front of a text with a property that no longer front has;
* `Lexer.Quoted`: a content as it is written between quotes;
* `Token.SpelledBy`: the characters that spell a token where some text follows;
* `Lexer.StartsToken`: a text that starts with a spelled token;
* `Lexer.scan_cases`: what one step of a scan finds or passes over.

A minus sign before digits is spelled in two ways, as an operator and as part of the number.  Which of
them is found depends on the token before it, and is not said here.
-/

namespace HostExpr

namespace Lexer

/-! ### Spellings -/

/-- The front `cs` of a text that goes on with `rest` has the property `P`, and no longer front of
the text has it. -/
def Longest (P : List Char → Prop) (cs rest : List Char) : Prop :=
  P cs ∧ ∀ more, more ≠ [] → more <+: rest → ¬ P (cs ++ more)

/-- A letter or underscore, and then characters of words. -/
def IsWord (cs : List Char) : Prop :=
  ∃ c ds, cs = c :: ds ∧ Letter.startsWord c ∧ ∀ d ∈ ds, Letter.continuesWord d

/-- Digits with at most one point between two of them. -/
def IsNumeral (cs : List Char) : Prop :=
  ∃ whole fraction, whole ≠ [] ∧ Decimal.IsRun whole ∧ Decimal.IsRun fraction ∧
    cs = Decimal.pointed whole fraction

/-- The words that are no identifiers. -/
def keywords : List (String × Token) :=
  [("true", .boolean true), ("TRUE", .boolean true), ("false", .boolean false),
    ("FALSE", .boolean false), ("and", .and), ("or", .or)]

/-- The symbols. -/
def symbols : List (List Char × Token) :=
  [(['=', '>'], .arrow), (['=', '='], .equal), (['!', '='], .notEqual), (['<', '='], .lessEqual),
    (['>', '='], .greaterEqual), (['&', '&'], .and), (['|', '|'], .or), (['<'], .less),
    (['>'], .greater), (['!'], .bang), (['+'], .plus), (['-'], .minus), (['*'], .star),
    (['/'], .slash), (['%'], .percent), (['?'], .question), ([':'], .colon), (['('], .openParen),
    ([')'], .closeParen), (['{'], .openBrace), (['}'], .closeBrace), (['['], .openBracket),
    ([']'], .closeBracket), ([','], .comma), (['.'], .dot)]

/-- The characters of a symbol. -/
def IsSymbol (cs : List Char) : Prop :=
  ∃ t, (cs, t) ∈ symbols

/-- The marks around a string literal. -/
abbrev IsQuote (c : Char) : Prop :=
  c = '"' ∨ c = '\''

/-- A content as it is written between two quotes: a backslash takes the next character as it is, and
only with a backslash stand a quote and a backslash in it. -/
inductive Quoted (quote : Char) : List Char → List Char → Prop
  | nil : Quoted quote [] []
  | plain {c : Char} {content written : List Char} :
      c ≠ quote → c ≠ '\\' → Quoted quote content written →
      Quoted quote (c :: content) (c :: written)
  | escaped {c : Char} {content written : List Char} :
      Quoted quote content written → Quoted quote (c :: content) ('\\' :: c :: written)

end Lexer

open Lexer

/-- The characters `cs` spell a token where `rest` follows. -/
inductive Token.SpelledBy : Token → List Char → List Char → Prop
  | keyword {t : Token} {cs rest : List Char} :
      Longest IsWord cs rest → (String.ofList cs, t) ∈ keywords → SpelledBy t cs rest
  | identifier {cs rest : List Char} :
      Longest IsWord cs rest → (∀ t, (String.ofList cs, t) ∉ keywords) →
      SpelledBy (.identifier (String.ofList cs)) cs rest
  | text {quote : Char} {content written rest : List Char} :
      IsQuote quote → Quoted quote content written →
      SpelledBy (.text (String.ofList content)) (quote :: (written ++ [quote])) rest
  | number {x : Float} {sign cs rest : List Char} :
      sign = [] ∨ sign = ['-'] → Longest IsNumeral cs rest →
      Number.read? (sign ++ cs) = some x → SpelledBy (.number x) (sign ++ cs) rest
  | symbol {t : Token} {cs rest : List Char} :
      (cs, t) ∈ symbols → Longest IsSymbol cs rest → SpelledBy t cs rest

namespace Lexer

/-- Whether a token is spelled at the front of a text. -/
def StartsToken (text : List Char) : Prop :=
  ∃ t cs rest, text = cs ++ rest ∧ Token.SpelledBy t cs rest

/-! ### String literals -/

theorem quoted_cons {quote c : Char} (hc : c ≠ '\\') (cs : List Char) :
    quoted quote (c :: cs) =
      if c = quote then (some [], cs)
      else ((quoted quote cs).1.map (c :: ·), (quoted quote cs).2) := by
  rw [quoted.eq_def]
  split
  · next heq => exact absurd heq (by simp)
  · next heq => exact absurd (List.cons.inj heq).1 hc
  · next heq => exact absurd (List.cons.inj heq).1 hc
  · next heq =>
    obtain ⟨rfl, rfl⟩ := List.cons.inj heq
    rfl

theorem quoted_backslash (quote c : Char) (cs : List Char) :
    quoted quote ('\\' :: c :: cs) = ((quoted quote cs).1.map (c :: ·), (quoted quote cs).2) := by
  rw [quoted]

theorem IsQuote.ne_backslash {c : Char} (h : IsQuote c) : c ≠ '\\' := by
  rintro rfl
  exact absurd h (by simp [IsQuote])

/-- A written content is read up to its closing quote. -/
theorem quoted_of_written {quote : Char} (hquote : IsQuote quote) {content written : List Char}
    (h : Quoted quote content written) (rest : List Char) :
    quoted quote (written ++ quote :: rest) = (some content, rest) := by
  induction h with
  | nil =>
    rw [List.nil_append, quoted_cons hquote.ne_backslash, if_pos rfl]
  | plain hc hb _ ih =>
    rw [List.cons_append, quoted_cons hb, if_neg hc, ih]
    rfl
  | escaped _ ih =>
    rw [List.cons_append, List.cons_append, quoted_backslash, ih]
    rfl

/-- What is read up to a closing quote is the content that is written there, and a text without a
closing quote is read to its end. -/
theorem quoted_cases (quote : Char) (cs : List Char) :
    (∃ content written rest, cs = written ++ quote :: rest ∧ Quoted quote content written ∧
        quoted quote cs = (some content, rest)) ∨
      quoted quote cs = (none, []) := by
  fun_induction quoted quote cs with
  | case1 => exact .inr rfl
  | case2 => exact .inr rfl
  | case3 c cs content rest hq ih =>
    rcases ih with ⟨inner, written, after, rfl, hwritten, heq⟩ | heq
    · obtain ⟨rfl, rfl⟩ := Prod.mk.inj (hq.symm.trans heq)
      exact .inl ⟨c :: inner, '\\' :: c :: written, rest, rfl, .escaped hwritten, rfl⟩
    · obtain ⟨rfl, rfl⟩ := Prod.mk.inj (hq.symm.trans heq)
      exact .inr rfl
  | case4 cs hnil hcons => exact .inl ⟨[], [], cs, rfl, .nil, rfl⟩
  | case5 c cs hnil hcons hc content rest hq ih =>
    have hb : c ≠ '\\' := by
      intro hb
      cases cs with
      | nil => exact hnil hb rfl
      | cons d ds => exact hcons d ds hb rfl
    rcases ih with ⟨inner, written, after, rfl, hwritten, heq⟩ | heq
    · obtain ⟨rfl, rfl⟩ := Prod.mk.inj (hq.symm.trans heq)
      exact .inl ⟨c :: inner, c :: written, rest, rfl, .plain hc hb hwritten, rfl⟩
    · obtain ⟨rfl, rfl⟩ := Prod.mk.inj (hq.symm.trans heq)
      exact .inr rfl

/-! ### Words -/

theorem wordToken_of_mem {word : String} {t : Token} (h : (word, t) ∈ keywords) :
    wordToken word = t := by
  simp only [keywords, List.mem_cons, Prod.mk.injEq, List.not_mem_nil, or_false] at h
  rcases h with ⟨rfl, rfl⟩ | ⟨rfl, rfl⟩ | ⟨rfl, rfl⟩ | ⟨rfl, rfl⟩ | ⟨rfl, rfl⟩ | ⟨rfl, rfl⟩ <;> rfl

theorem wordToken_of_not_mem {word : String} (h : ∀ t, (word, t) ∉ keywords) :
    wordToken word = .identifier word := by
  have hne : ∀ keyword t, (keyword, t) ∈ keywords → word ≠ keyword := by
    rintro keyword t hmem rfl
    exact h t hmem
  unfold wordToken
  rw [if_neg, if_neg, if_neg, if_neg]
  · exact hne "or" .or (by simp [keywords])
  · exact hne "and" .and (by simp [keywords])
  · exact not_or.2 ⟨hne "false" (.boolean false) (by simp [keywords]),
      hne "FALSE" (.boolean false) (by simp [keywords])⟩
  · exact not_or.2 ⟨hne "true" (.boolean true) (by simp [keywords]),
      hne "TRUE" (.boolean true) (by simp [keywords])⟩

/-- A run of characters that is taken from the front of a text ends where it has to. -/
theorem head_dropWhile {p : Char → Bool} {cs more : List Char} {c : Char}
    (h : c :: more <+: cs.dropWhile p) : p c = false := by
  obtain ⟨rest, hrest⟩ := h
  have hhead : (cs.dropWhile p).head? = some c := by
    rw [← hrest]
    rfl
  have hnot := List.head?_dropWhile_not p cs
  rw [hhead] at hnot
  simpa using hnot

/-- A word is spelled by its first letter and the characters of words after it. -/
theorem word_spelled {c : Char} (hc : Letter.startsWord c) (cs : List Char) :
    (wordToken (String.ofList (c :: cs.takeWhile Letter.continuesWord))).SpelledBy
      (c :: cs.takeWhile Letter.continuesWord) (cs.dropWhile Letter.continuesWord) := by
  have hword : IsWord (c :: cs.takeWhile Letter.continuesWord) :=
    ⟨c, _, rfl, hc, List.all_eq_true.1 List.all_takeWhile⟩
  have hlongest : Longest IsWord (c :: cs.takeWhile Letter.continuesWord)
      (cs.dropWhile Letter.continuesWord) := by
    refine ⟨hword, ?_⟩
    rintro (_ | ⟨d, more⟩) hne hfront ⟨c', ds, heq, -, hds⟩
    · exact hne rfl
    · obtain ⟨-, rfl⟩ := List.cons.inj heq
      have hd : Letter.continuesWord d := hds d (by simp)
      rw [head_dropWhile hfront] at hd
      exact absurd hd (by simp)
  by_cases hkeyword : ∃ t, (String.ofList (c :: cs.takeWhile Letter.continuesWord), t) ∈ keywords
  · obtain ⟨t, ht⟩ := hkeyword
    rw [wordToken_of_mem ht]
    exact .keyword hlongest ht
  · have hnot := not_exists.1 hkeyword
    rw [wordToken_of_not_mem hnot]
    exact .identifier hlongest hnot

/-! ### Numbers -/

open Decimal

/-- Digits around a point begin with the digits before the first character that is none. -/
theorem pointed_eq {whole fraction ds more : List Char} {c : Char} (hwhole : IsRun whole)
    (hds : IsRun ds) (hc : isDigit c = false) (h : pointed whole fraction = ds ++ c :: more) :
    whole = ds ∧ fraction ≠ [] ∧ c = '.' ∧ fraction = more := by
  unfold pointed at h
  have hstop : Lexer.startsWithDigit (if fraction = [] then [] else '.' :: fraction) = false := by
    split <;> rfl
  obtain ⟨htake, hdrop⟩ := hwhole.split _ hstop
  obtain ⟨htake', hdrop'⟩ := hds.split (c :: more) hc
  rw [h] at htake hdrop
  have hrest := hdrop'.symm.trans hdrop
  split at hrest
  · exact absurd hrest (by simp)
  · next hne =>
    obtain ⟨rfl, rfl⟩ := List.cons.inj hrest
    exact ⟨htake.symm.trans htake', hne, rfl, rfl⟩

/-- The digits at the front of a text, and what follows them. -/
theorem exists_run (cs : List Char) :
    ∃ ds rest, cs = ds ++ rest ∧ IsRun ds ∧ startsWithDigit rest = false ∧
      cs.takeWhile isDigit = ds ∧ cs.dropWhile isDigit = rest := by
  refine ⟨_, _, List.takeWhile_append_dropWhile.symm, List.all_eq_true.1 List.all_takeWhile, ?_,
    rfl, rfl⟩
  cases hrest : cs.dropWhile isDigit with
  | nil => rfl
  | cons c rest =>
    have hfront : [c] <+: cs.dropWhile isDigit := ⟨rest, hrest.symm⟩
    exact head_dropWhile hfront

/-- The digits after a point are read, and a point without a digit after it is left. -/
theorem fraction_cases (cs : List Char) :
    (∃ ds rest, ds ≠ [] ∧ IsRun ds ∧ startsWithDigit rest = false ∧ cs = '.' :: (ds ++ rest) ∧
        fraction cs = (ds, rest)) ∨
      fraction cs = ([], cs) ∧ ∀ c more, cs = '.' :: c :: more → isDigit c = false := by
  unfold fraction
  split
  · next c cs =>
    split
    · next hc =>
      obtain ⟨ds, rest, rfl, hds, hrest, htake, hdrop⟩ := exists_run cs
      rw [htake, hdrop]
      exact .inl ⟨c :: ds, rest, by simp, List.forall_mem_cons.2 ⟨hc, hds⟩, hrest, rfl, rfl⟩
    · next hc =>
      refine .inr ⟨rfl, ?_⟩
      rintro d more ⟨⟩
      exact eq_false_of_ne_true hc
  · next hne =>
    refine .inr ⟨rfl, ?_⟩
    rintro d more rfl
    exact absurd rfl (hne d more)

/-- A text that starts with a digit starts with a numeral, and the longest one is read. -/
theorem numeral_spelled {cs : List Char} (h : startsWithDigit cs) :
    ∃ ds, cs = ds ++ (numeral cs).2 ∧ startsWithDigit ds ∧ Longest IsNumeral ds (numeral cs).2 ∧
      (Decimal.read? ds).map Decimal.toFloat = some (numeral cs).1 := by
  obtain ⟨whole, after, rfl, hwhole, hafter, htake, hdrop⟩ := exists_run cs
  have hne : whole ≠ [] := by
    rintro rfl
    rw [List.nil_append] at h
    exact absurd (h.symm.trans hafter) (by simp)
  have hstarts : ∀ fraction, startsWithDigit (pointed whole fraction) := by
    intro fraction
    obtain ⟨c, ds, heq, hc⟩ := Number.exists_cons_pointed hne hwhole fraction
    rw [heq]
    exact hc
  unfold numeral
  rw [htake, hdrop]
  obtain ⟨fraction, rest, hfraction, hrun, hrest, rfl, heq⟩ | ⟨heq, hpoint⟩ := fraction_cases after
  · rw [heq]
    refine ⟨pointed whole fraction, ?_, hstarts fraction, ⟨⟨_, _, hne, hwhole, hrun, rfl⟩, ?_⟩, ?_⟩
    · rw [pointed, if_neg hfraction, List.append_assoc, List.cons_append]
    · -- a longer numeral had further digits after the same point
      rintro (_ | ⟨c, more⟩) hmore hfront ⟨whole', fraction', -, hwhole', hrun', hnumeral⟩
      · exact hmore rfl
      · rw [pointed, if_neg hfraction, List.append_assoc, List.cons_append] at hnumeral
        obtain ⟨-, -, -, rfl⟩ := pointed_eq hwhole' hwhole rfl hnumeral.symm
        obtain ⟨rest', rfl⟩ := hfront
        have hc : isDigit c := hrun' c (by simp)
        exact absurd (hc.symm.trans hrest) (by simp)
    · rw [read?_pointed hne hwhole hrun]
      rfl
  · rw [heq]
    refine ⟨whole, rfl, ?_, ⟨⟨whole, [], hne, hwhole, by simp [IsRun], by simp [pointed]⟩, ?_⟩, ?_⟩
    · simpa [pointed] using hstarts []
    · -- a longer numeral went on with a point and a digit
      rintro (_ | ⟨c, more⟩) hmore ⟨rest', rfl⟩ ⟨whole', fraction', -, hwhole', hrun', hnumeral⟩
      · exact hmore rfl
      · obtain ⟨-, hfraction', rfl, rfl⟩ := pointed_eq hwhole' hwhole hafter hnumeral.symm
        cases fraction' with
        | nil => exact hfraction' rfl
        | cons d ds =>
          have hd : isDigit d := hrun' d (by simp)
          exact absurd (hd.symm.trans (hpoint d (ds ++ rest') rfl)) (by simp)
    · have hnone : IsRun [] := by simp [IsRun]
      have hread := read?_pointed hne hwhole hnone
      rw [pointed, if_pos rfl, List.append_nil] at hread
      rw [hread]
      rfl

theorem number_spelled {cs : List Char} (h : startsWithDigit cs) :
    ∃ c ds, cs = c :: ds ++ (numeral cs).2 ∧ isDigit c ∧
      (Token.number (numeral cs).1).SpelledBy (c :: ds) (numeral cs).2 ∧
      (Token.number (-(numeral cs).1)).SpelledBy ('-' :: c :: ds) (numeral cs).2 := by
  obtain ⟨ds, hcs, hstarts, hlongest, hread⟩ := numeral_spelled h
  cases ds with
  | nil => exact absurd hstarts (by simp [startsWithDigit])
  | cons c ds =>
    refine ⟨c, ds, hcs, hstarts, ?_, ?_⟩
    · have hnumber : Number.read? ([] ++ c :: ds) = some (numeral cs).1 := by
        rw [List.nil_append, Number.read?_of_isDigit hstarts, hread]
      exact .number (.inl rfl) hlongest hnumber
    · have hnumber : Number.read? (['-'] ++ c :: ds) = some (-(numeral cs).1) := by
        obtain ⟨d, hd, hx⟩ := Option.map_eq_some_iff.1 hread
        show (Decimal.read? (c :: ds)).map (fun d => -d.toFloat) = _
        rw [hd, ← hx]
        rfl
      exact .number (.inr rfl) hlongest hnumber

/-! ### Symbols -/

theorem mem_symbols_of_single {c : Char} {t : Token} (h : singleToken c = some t) :
    ([c], t) ∈ symbols := by
  unfold singleToken at h
  split at h
  all_goals cases h
  all_goals decide

theorem mem_symbols_of_pair {c d : Char} {t : Token} (h : pairToken c d = some t) :
    ([c, d], t) ∈ symbols := by
  unfold pairToken at h
  split at h
  all_goals cases h
  all_goals decide

/-- The token of a symbol by the number of its characters. -/
def symbolToken : List Char → Option Token
  | [c] => singleToken c
  | [c, d] => pairToken c d
  | _ => none

theorem symbolToken_of_mem {cs : List Char} {t : Token} (h : (cs, t) ∈ symbols) :
    symbolToken cs = some t := by
  have hall : ∀ s ∈ symbols, symbolToken s.1 = some s.2 := by decide
  exact hall _ h

theorem longest_pair {c d : Char} {t : Token} (h : pairToken c d = some t) (rest : List Char) :
    Longest IsSymbol [c, d] rest := by
  refine ⟨⟨t, mem_symbols_of_pair h⟩, ?_⟩
  rintro (_ | ⟨e, more⟩) hne - ⟨u, hu⟩
  · exact hne rfl
  · exact absurd (symbolToken_of_mem hu) (by simp [symbolToken])

theorem longest_single {c : Char} {t : Token} {rest : List Char} (h : singleToken c = some t)
    (hpair : ∀ d ∈ rest.head?, pairToken c d = none) : Longest IsSymbol [c] rest := by
  refine ⟨⟨t, mem_symbols_of_single h⟩, ?_⟩
  rintro (_ | ⟨d, _ | ⟨e, more⟩⟩) hne ⟨rest', rfl⟩ ⟨u, hu⟩
  · exact hne rfl
  · have hnone : pairToken c d = none := hpair d rfl
    have hsome : pairToken c d = some u := symbolToken_of_mem hu
    exact absurd (hnone.symm.trans hsome) (by simp)
  · exact absurd (symbolToken_of_mem hu) (by simp [symbolToken])

theorem ne_of_isSymbol {c : Char} {cs : List Char} (hsingle : singleToken c = none)
    (hpair : ∀ d ∈ cs.head?, pairToken c d = none) {ds : List Char} (h : IsSymbol ds)
    (rest : List Char) : c :: cs ≠ ds ++ rest := by
  obtain ⟨t, ht⟩ := h
  have htoken := symbolToken_of_mem ht
  intro heq
  match ds with
  | [] => exact absurd htoken (by simp [symbolToken])
  | [d] =>
    obtain ⟨rfl, -⟩ := List.cons.inj heq
    exact absurd (hsingle.symm.trans htoken) (by simp)
  | [d, e] =>
    obtain ⟨rfl, rfl⟩ := List.cons.inj heq
    exact absurd ((hpair e rfl).symm.trans htoken) (by simp)
  | _ :: _ :: _ :: _ => exact absurd htoken (by simp [symbolToken])

/-- A symbol at the front of a text is read, one of two characters before one of a single character,
and without a symbol only the first character is passed over. -/
theorem symbol_cases (c : Char) (cs : List Char) :
    (∃ t ds rest, cs = ds ++ rest ∧ symbol c cs = (some t, rest) ∧ (c :: ds, t) ∈ symbols ∧
        Longest IsSymbol (c :: ds) rest) ∨
      symbol c cs = (none, cs) ∧ singleToken c = none ∧
        ∀ ds rest, IsSymbol ds → c :: cs ≠ ds ++ rest := by
  have hsingle : symbol c cs = (singleToken c, cs) → (∀ d ∈ cs.head?, pairToken c d = none) →
      (∃ t ds rest, cs = ds ++ rest ∧ symbol c cs = (some t, rest) ∧ (c :: ds, t) ∈ symbols ∧
        Longest IsSymbol (c :: ds) rest) ∨
      symbol c cs = (none, cs) ∧ singleToken c = none ∧
        ∀ ds rest, IsSymbol ds → c :: cs ≠ ds ++ rest := by
    intro heq hpair
    cases h : singleToken c with
    | none =>
      rw [h] at heq
      exact .inr ⟨heq, rfl, fun ds rest hds => ne_of_isSymbol h hpair hds rest⟩
    | some t =>
      rw [h] at heq
      exact .inl ⟨t, [], cs, rfl, heq, mem_symbols_of_single h, longest_single h hpair⟩
  cases cs with
  | nil => exact hsingle rfl (by simp)
  | cons d rest =>
    cases h : pairToken c d with
    | some t =>
      refine .inl ⟨t, [d], rest, rfl, ?_, mem_symbols_of_pair h, longest_pair h rest⟩
      unfold symbol
      simp only [h]
    | none =>
      refine hsingle ?_ (by simpa using h)
      unfold symbol
      simp only [h]

/-! ### One step -/

theorem scan_quote {c : Char} (h : IsQuote c) (a : Bool) (cs : List Char) :
    scan a c cs =
      ((quoted c cs).1.map fun content => .text (String.ofList content), (quoted c cs).2) := by
  unfold scan
  rw [if_pos h]

theorem not_isQuote_of_startsWord {c : Char} (h : Letter.startsWord c) : ¬ IsQuote c := by
  rintro (rfl | rfl)
  · exact absurd h (by decide)
  · exact absurd h (by decide)

theorem scan_word {c : Char} (h : Letter.startsWord c) (a : Bool) (cs : List Char) :
    scan a c cs = (some (wordToken (String.ofList (c :: cs.takeWhile Letter.continuesWord))),
      cs.dropWhile Letter.continuesWord) := by
  unfold scan
  rw [if_neg (not_isQuote_of_startsWord h), if_pos h]

/-- A character without a place in any spelling starts no token. -/
theorem not_startsToken {c : Char} {cs : List Char} (hword : ¬ Letter.startsWord c)
    (hdigit : ¬ isDigit c) (hminus : c ≠ '-')
    (hquote : IsQuote c → ∀ content written rest, Quoted c content written →
      cs ≠ written ++ c :: rest)
    (hsymbol : ∀ ds rest, IsSymbol ds → c :: cs ≠ ds ++ rest) : ¬ StartsToken (c :: cs) := by
  rintro ⟨t, ds, rest, heq, hspelled⟩
  have hnoWord : ¬ IsWord ds := by
    rintro ⟨d, ds, rfl, hd, -⟩
    obtain ⟨rfl, -⟩ := List.cons.inj heq
    exact hword hd
  cases hspelled with
  | keyword hlongest _ => exact hnoWord hlongest.1
  | identifier hlongest _ => exact hnoWord hlongest.1
  | text hmark hwritten =>
    rw [List.cons_append, List.append_assoc] at heq
    obtain ⟨rfl, rfl⟩ := List.cons.inj heq
    exact hquote hmark _ _ rest hwritten rfl
  | number hsign hlongest _ =>
    rcases hsign with rfl | rfl
    · obtain ⟨whole, fraction, hne, hwhole, -, rfl⟩ := hlongest.1
      obtain ⟨d, ds, hds, hd⟩ := Number.exists_cons_pointed hne hwhole fraction
      rw [List.nil_append, hds] at heq
      obtain ⟨rfl, -⟩ := List.cons.inj heq
      exact hdigit hd
    · exact hminus (List.cons.inj heq).1
  | symbol hmem _ => exact hsymbol ds rest ⟨t, hmem⟩ heq

theorem not_startsToken_of_quote {c : Char} {cs : List Char} (h : IsQuote c)
    (hnone : quoted c cs = (none, [])) : ¬ StartsToken (c :: cs) := by
  have hsingle : singleToken c = none := by
    rcases h with rfl | rfl <;> rfl
  have hpair : ∀ d ∈ cs.head?, pairToken c d = none := by
    intro d _
    rcases h with rfl | rfl <;> rfl
  refine not_startsToken (fun hword => not_isQuote_of_startsWord hword h)
    (fun hdigit => (digit_cases hdigit).1 h) ?_ ?_ fun ds rest hds =>
      ne_of_isSymbol hsingle hpair hds rest
  · rcases h with rfl | rfl <;> decide
  · rintro - content written rest hwritten rfl
    rw [quoted_of_written h hwritten] at hnone
    exact absurd hnone (by simp)

/-- One step of a scan finds a spelled token, passes over a character that starts none, or passes
over all that follows a quote that is not closed. -/
theorem scan_cases (a : Bool) (c : Char) (cs : List Char) :
    (∃ t ds rest, cs = ds ++ rest ∧ scan a c cs = (some t, rest) ∧ t.SpelledBy (c :: ds) rest) ∨
      (¬ IsQuote c ∧ scan a c cs = (none, cs) ∧ ¬ StartsToken (c :: cs)) ∨
      IsQuote c ∧ scan a c cs = (none, []) ∧ ¬ StartsToken (c :: cs) := by
  by_cases hquote : IsQuote c
  · rw [scan_quote hquote]
    obtain ⟨content, written, rest, rfl, hwritten, heq⟩ | hnone := quoted_cases c cs
    · rw [heq]
      refine .inl ⟨_, written ++ [c], rest, ?_, rfl, .text hquote hwritten⟩
      rw [List.append_assoc]
      rfl
    · have hnot := not_startsToken_of_quote hquote hnone
      rw [hnone]
      exact .inr (.inr ⟨hquote, rfl, hnot⟩)
  by_cases hword : Letter.startsWord c
  · rw [scan_word hword]
    exact .inl ⟨_, _, _, List.takeWhile_append_dropWhile.symm, rfl, word_spelled hword cs⟩
  by_cases hdigit : isDigit c
  · have hstarts : startsWithDigit (c :: cs) := hdigit
    obtain ⟨d, ds, heq, -, hspelled, -⟩ := number_spelled hstarts
    rw [List.cons_append] at heq
    obtain ⟨rfl, hcs⟩ := List.cons.inj heq
    exact .inl ⟨_, ds, _, hcs, scan_digit hdigit a cs, hspelled⟩
  by_cases hminus : c = '-' ∧ !a ∧ startsWithDigit cs
  · obtain ⟨rfl, ha, hstarts⟩ := hminus
    obtain ⟨d, ds, heq, hd, -, hspelled⟩ := number_spelled hstarts
    have hscan : scan a '-' cs = (some (.number (-(numeral cs).1)), (numeral cs).2) := by
      obtain rfl : a = false := by simpa using ha
      rw [heq, List.cons_append, scan_minus hd]
    exact .inl ⟨_, d :: ds, _, heq, hscan, hspelled⟩
  have hscan : scan a c cs = symbol c cs := by
    unfold scan
    rw [if_neg hquote, if_neg hword, if_neg hdigit, if_neg hminus]
  rw [hscan]
  obtain ⟨t, ds, rest, rfl, heq, hmem, hlongest⟩ | ⟨heq, hsingle, hsymbol⟩ := symbol_cases c cs
  · exact .inl ⟨t, ds, rest, rfl, heq, .symbol hmem hlongest⟩
  · refine .inr (.inl ⟨hquote, heq, not_startsToken hword hdigit ?_
      (fun hmark => absurd hmark hquote) hsymbol⟩)
    rintro rfl
    exact absurd hsingle (by decide)

end Lexer

/-! ### Spellings are not empty -/

theorem Token.SpelledBy.ne_nil {t : Token} {cs rest : List Char} (h : t.SpelledBy cs rest) :
    cs ≠ [] := by
  cases h with
  | keyword hlongest _ | identifier hlongest _ =>
    obtain ⟨c, ds, rfl, -⟩ := hlongest.1
    simp
  | text => simp
  | number _ hlongest _ =>
    obtain ⟨whole, fraction, hne, -, -, rfl⟩ := hlongest.1
    simp [Decimal.pointed, hne]
  | symbol hmem _ =>
    rintro rfl
    exact absurd (symbolToken_of_mem hmem) (by simp [symbolToken])

theorem Token.SpelledBy.ne_eof {t : Token} {cs rest : List Char} (h : t.SpelledBy cs rest) :
    t ≠ .eof := by
  cases h with
  | keyword _ hmem =>
    have hall : ∀ k ∈ keywords, k.2 ≠ .eof := by decide
    exact hall _ hmem
  | identifier | text | number => simp
  | symbol hmem _ =>
    have hall : ∀ s ∈ symbols, s.2 ≠ .eof := by decide
    exact hall _ hmem

end HostExpr
