import HostExpr.Proofs.Boundaries

/-!
# Printed tokens are found again

Tokens that are written one after another, with a blank between two, are the tokens of the text.

* `Token.print`: the canonical characters of a token, with `escaped` for the content of a text;
* `Token.Printable`: the tokens that such characters stand for;
* `Lexer.printed`, `Lexer.arranged`: a text of tokens, and the tokens with their offsets in it;
* `Lexer.scan_print`: the characters of a token are scanned as that token;
* `tokenize_print`: a text of tokens is scanned as these tokens.

A number whose sign bit is set must not follow the end of an operand, where its sign would be an
operator: one of the tokens with which the operands of the grammar end (`Token.endsOperand_iff`).
-/

namespace HostExpr

open Lexer

/-! ### Printing -/

/-- The marks that a text can be written between. -/
inductive Quote where
  | single
  | double
  deriving DecidableEq

/-- The character of a mark. -/
def Quote.mark : Quote → Char
  | single => '\''
  | double => '"'

theorem Quote.isQuote_mark (quote : Quote) : IsQuote quote.mark := by
  cases quote with
  | single => exact .inr rfl
  | double => exact .inl rfl

/-- A content with a backslash before each quote and each backslash in it. -/
def escaped (quote : Char) (cs : List Char) : List Char :=
  cs.flatMap fun c => if c = quote ∨ c = '\\' then ['\\', c] else [c]

theorem quoted_escaped (quote : Char) (cs : List Char) : Quoted quote cs (escaped quote cs) := by
  induction cs with
  | nil => exact .nil
  | cons c cs ih =>
    show Quoted quote (c :: cs) ((if c = quote ∨ c = '\\' then ['\\', c] else [c]) ++ escaped quote cs)
    split
    · exact .escaped ih
    · next h => exact .plain (fun hc => h (.inl hc)) (fun hc => h (.inr hc)) ih

namespace Token

/-- The characters of a token in its canonical spelling, those of a text between the given marks. -/
def print (quote : Quote) : Token → List Char
  | number x => Number.plain x
  | text s => quote.mark :: (escaped quote.mark s.toList ++ [quote.mark])
  | boolean true => ['t', 'r', 'u', 'e']
  | boolean false => ['f', 'a', 'l', 's', 'e']
  | identifier name => name.toList
  | arrow => ['=', '>']
  | equal => ['=', '=']
  | notEqual => ['!', '=']
  | less => ['<']
  | lessEqual => ['<', '=']
  | greater => ['>']
  | greaterEqual => ['>', '=']
  | plus => ['+']
  | minus => ['-']
  | star => ['*']
  | slash => ['/']
  | percent => ['%']
  | and => ['&', '&']
  | or => ['|', '|']
  | bang => ['!']
  | openBrace => ['{']
  | closeBrace => ['}']
  | openParen => ['(']
  | closeParen => [')']
  | openBracket => ['[']
  | closeBracket => [']']
  | question => ['?']
  | colon => [':']
  | comma => [',']
  | dot => ['.']
  | eof => []

/-- Whether a token has a spelling of its own: a number is finite, and an identifier is a word that is
no keyword. -/
def Printable : Token → Prop
  | number x => x.isFinite
  | identifier name => IsWord name.toList ∧ ∀ t, (name, t) ∉ keywords
  | eof => False
  | _ => True

/-- Whether a token is a number whose sign bit is set. -/
def isNegative : Token → Bool
  | number x => (Number.parts x).negative
  | _ => false

end Token

/-! ### One token -/

/-- Only a number whose sign bit is set is printed with a minus sign. -/
theorem Number.negative_of_plain {x : Float} {cs : List Char} (h : plain x = '-' :: cs) :
    (parts x).negative = true := by
  obtain ⟨whole, fraction, hne, hwhole, -, hplain⟩ := exists_plain x
  obtain ⟨c, ds, hds, hc⟩ := exists_cons_pointed hne hwhole fraction
  cases hnegative : (parts x).negative with
  | true => rfl
  | false =>
    rw [hnegative, if_neg Bool.false_ne_true, h, hds] at hplain
    obtain ⟨rfl, -⟩ := List.cons.inj hplain
    exact absurd hc (by decide)

namespace Lexer

/-- A text that is a single word is scanned to its end. -/
theorem scan_of_isWord {cs : List Char} (h : IsWord cs) (a : Bool) :
    ∃ c ds, cs = c :: ds ∧ scan a c ds = (some (wordToken (String.ofList cs)), []) := by
  obtain ⟨c, ds, rfl, hc, hds⟩ := h
  have htake : (ds ++ []).takeWhile Letter.continuesWord = ds ++ [] :=
    List.takeWhile_append_of_pos hds
  have hdrop : (ds ++ []).dropWhile Letter.continuesWord = [] := List.dropWhile_append_of_pos hds
  rw [List.append_nil] at htake hdrop
  refine ⟨c, ds, rfl, ?_⟩
  rw [scan_word hc, htake, hdrop]

/-- The characters of a token are scanned as that token, unless it is a number with a minus sign after
the end of an operand. -/
theorem scan_print {t : Token} (h : t.Printable) (hread : ∀ x, t = .number x →
    Number.read? (Number.plain x) = some x) {a : Bool} (ha : a = true → t.isNegative = false)
    (quote : Quote) :
    ∃ c cs, t.print quote = c :: cs ∧ scan a c cs = (some t, []) := by
  cases t with
  | number x =>
    have hend : Decimal.EndsNumeral [] := by simp [Decimal.EndsNumeral, startsWithDigit]
    obtain ⟨c, cs, y, hc, hnumeral, ⟨hplain, rfl⟩ | ⟨hplain, rfl⟩⟩ := Number.plain_cases (hread x rfl)
    · have hall := hnumeral [] hend
      rw [List.append_nil] at hall
      exact ⟨c, cs, hplain, by rw [scan_digit hc, hall]⟩
    · have hall := hnumeral [] hend
      rw [List.append_nil] at hall
      cases a with
      | false => exact ⟨'-', c :: cs, hplain, by rw [scan_minus hc, hall]⟩
      | true =>
        have hnegative : (Token.number (-y)).isNegative := Number.negative_of_plain hplain
        exact absurd (hnegative.symm.trans (ha rfl)) (by simp)
  | text s =>
    have hquoted := quoted_of_written quote.isQuote_mark (quoted_escaped quote.mark s.toList) []
    refine ⟨quote.mark, escaped quote.mark s.toList ++ [quote.mark], rfl, ?_⟩
    rw [scan_quote quote.isQuote_mark, hquoted, Option.map_some, String.ofList_toList]
  | boolean b =>
    cases b with
    | true => cases a <;> exact ⟨_, _, rfl, rfl⟩
    | false => cases a <;> exact ⟨_, _, rfl, rfl⟩
  | identifier name =>
    obtain ⟨c, cs, hname, hscan⟩ := scan_of_isWord h.1 a
    refine ⟨c, cs, hname, ?_⟩
    rw [hscan, String.ofList_toList, wordToken_of_not_mem h.2]
  | eof => exact absurd h id
  | _ => cases a <;> exact ⟨_, _, rfl, rfl⟩

/-! ### Texts of tokens -/

/-- The characters of tokens, with a blank between two. -/
def printed (ts : List (Quote × Token)) : List Char :=
  [' '].intercalate (ts.map fun t => t.2.print t.1)

/-- Tokens, the first of which stands at the offset `p`, with the offsets of their characters. -/
def arranged : Nat → List (Quote × Token) → List Lexeme
  | _, [] => []
  | p, t :: ts => ⟨t.2, p⟩ :: arranged (p + (t.2.print t.1).length + 1) ts

/-- After some tokens that leave the flag `a`, no number with a minus sign stands after the end of an
operand. -/
def SignsApart : Bool → List (Quote × Token) → Prop
  | _, [] => True
  | a, t :: ts => (a = true → t.2.isNegative = false) ∧ SignsApart t.2.endsOperand ts

theorem signsApart_of_pairs {ts : List (Quote × Token)} {a : Bool}
    (hfirst : a = true → ∀ t ∈ ts.head?, t.2.isNegative = false)
    (h : ∀ s t, [s, t] <:+: ts → s.2.endsOperand → t.2.isNegative = false) : SignsApart a ts := by
  induction ts generalizing a with
  | nil => trivial
  | cons t ts ih =>
    refine ⟨fun ha => hfirst ha t rfl, ih ?_ ?_⟩
    · intro hends u hu
      cases ts with
      | nil => exact absurd hu (by simp)
      | cons v ts =>
        obtain rfl := Option.some.inj hu
        exact h t v ⟨[], ts, rfl⟩ hends
    · intro s u hpair
      exact h s u (List.infix_cons hpair)

/-- A text of tokens is scanned as these tokens, whatever the flag and the offset at its front. -/
theorem tokens_printed {ts : List (Quote × Token)} (hprintable : ∀ t ∈ ts, t.2.Printable)
    (hread : ∀ q x, (q, .number x) ∈ ts → Number.read? (Number.plain x) = some x) {a : Bool}
    (hsigns : SignsApart a ts) (p : Nat) :
    tokens ⟨printed ts, p, a⟩ = arranged p ts ++ [⟨.eof, p + (printed ts).length⟩] := by
  induction ts generalizing a p with
  | nil => exact tokens_nil p a
  | cons t ts ih =>
    obtain ⟨q, t⟩ := t
    obtain ⟨ht, hts⟩ := List.forall_mem_cons.1 hprintable
    obtain ⟨hsign, hsigns⟩ := hsigns
    have hnumber : ∀ x, t = .number x → Number.read? (Number.plain x) = some x := by
      rintro x rfl
      exact hread q x (by simp)
    obtain ⟨c, cs, hprint, hscan⟩ := scan_print ht hnumber hsign q
    have hlater := ih hts (fun q x hx => hread q x (List.mem_cons_of_mem _ hx)) hsigns
    have hone : ∀ rest, EndsToken rest → tokens ⟨t.print q ++ rest, p, a⟩ =
        ⟨t, p⟩ :: tokens ⟨rest, p + (t.print q).length, t.endsOperand⟩ := by
      intro rest hrest
      rw [hprint]
      exact tokens_append (scan_append hrest hscan (by simp)) p
    cases ts with
    | nil =>
      have hprinted : printed [(q, t)] = t.print q := by
        simp only [printed, List.map_cons, List.map_nil, List.intercalate_singleton]
      have hlast := hone [] endsToken_nil
      rw [List.append_nil, tokens_nil] at hlast
      rw [hprinted]
      exact hlast
    | cons u us =>
      have hprinted : printed ((q, t) :: u :: us) = t.print q ++ ' ' :: printed (u :: us) := by
        simp only [printed, List.map_cons, List.intercalate_cons_cons, List.append_assoc,
          List.singleton_append]
      have hend : p + (t.print q).length + 1 + (printed (u :: us)).length =
          p + (t.print q ++ ' ' :: printed (u :: us)).length := by
        rw [List.length_append, List.length_cons]
        omega
      rw [hprinted, hone _ (endsToken_cons separates_blank _), tokens_blank, hlater, hend]
      rfl

end Lexer

/-- **Printed tokens are found again.**  Let each of some tokens be a finite number whose text reads
back, a text, a word that is no keyword, or a token that is always spelled the same way, and let no
number with a set sign bit come right after the end of an operand.  Then the characters of the tokens,
with a blank between two, are scanned as these tokens, each at the offset of its characters, and the
end of the text. -/
theorem tokenize_print (ts : List (Quote × Token)) (hprintable : ∀ t ∈ ts, t.2.Printable)
    (hread : ∀ q x, (q, .number x) ∈ ts → Number.read? (Number.plain x) = some x)
    (hsign : ∀ s t, [s, t] <:+: ts → s.2.endsOperand → t.2.isNegative = false) :
    tokenize (String.ofList (printed ts)) =
      arranged 0 ts ++ [⟨.eof, (printed ts).length⟩] := by
  have hsigns : SignsApart false ts := signsApart_of_pairs (by simp) hsign
  have htokens := tokens_printed hprintable hread hsigns 0
  rw [Nat.zero_add] at htokens
  unfold tokenize
  rw [String.toList_ofList]
  exact htokens

/-- The difference of a word and a negative number in parentheses, and a text with both quotes and a
backslash in it. -/
theorem tokenize_print_difference :
    tokenize "x - ( -0.5 ) \"a\\\"'\\\\\"" =
      [⟨.identifier "x", 0⟩, ⟨.minus, 2⟩, ⟨.openParen, 4⟩, ⟨.number (-0.5), 6⟩, ⟨.closeParen, 11⟩,
        ⟨.text "a\"'\\", 13⟩, ⟨.eof, 21⟩] := by
  let ts : List (Quote × Token) := [(.single, .identifier "x"), (.single, .minus),
    (.single, .openParen), (.single, .number (-0.5)), (.single, .closeParen),
    (.double, .text "a\"'\\")]
  have hprinted : String.ofList (printed ts) = "x - ( -0.5 ) \"a\\\"'\\\\\"" := by decide +kernel
  have hread : ∀ q x, (q, .number x) ∈ ts → Number.read? (Number.plain x) = some x := by
    intro q x hx
    obtain ⟨-, rfl⟩ : q = .single ∧ x = -0.5 := by simpa [ts] using hx
    decide +kernel
  have hword : Token.Printable (.identifier "x") :=
    ⟨⟨'x', [], rfl, by decide, by simp⟩, by simp [keywords]⟩
  have hfinite : Float.isFinite (-0.5) = true := by decide +kernel
  have hprintable : ∀ t ∈ ts, t.2.Printable := by
    simp only [ts, List.forall_mem_cons]
    exact ⟨hword, trivial, trivial, hfinite, trivial, trivial, by simp⟩
  have hsign : ∀ s t, [s, t] <:+: ts → s.2.endsOperand → t.2.isNegative = false := by
    rintro ⟨p, s⟩ ⟨q, t⟩ hpair hends
    simp only [ts, List.infix_cons_iff, List.cons_prefix_cons, Prod.mk.injEq, List.nil_prefix,
      and_true, List.infix_nil, List.cons_ne_nil, or_false, List.prefix_nil, and_false] at hpair
    rcases hpair with ⟨⟨-, rfl⟩, -, rfl⟩ | ⟨⟨-, rfl⟩, -, rfl⟩ | ⟨⟨-, rfl⟩, -, rfl⟩ |
      ⟨⟨-, rfl⟩, -, rfl⟩ | ⟨⟨-, rfl⟩, -, rfl⟩
    · rfl
    · rfl
    · exact absurd hends (by simp [Token.endsOperand])
    · rfl
    · rfl
  have htokens := tokenize_print ts hprintable hread hsign
  rw [hprinted] at htokens
  exact htokens.trans (by decide +kernel)

end HostExpr
