import HostExpr.Text.Letter
import HostExpr.Token

/-!
# Splitting a text into tokens

A text is scanned from left to right.  Scanning never fails: a character that starts no token is
passed over, and so is a string literal without a closing quote.

* `Lexer.scan`: one step at the front of a text, which finds a token or passes something over;
* `Lexer.next`: the next token;
* `Lexer.tokens`, `tokenize`: all tokens, the end of the text as the last one.

A minus sign belongs to a number if a digit follows it and no operand stands before it.  Facts
shown here: a step never gives back more than the characters after the first one
(`Lexer.length_scan_le`), and the tokens of a lexer are what `Lexer.next` finds one after another
(`Lexer.tokens_eq`).
-/

namespace HostExpr

/-- What is left of a text, the offset where it begins, and whether the last token found ends an
operand. -/
structure Lexer where
  rest : List Char
  position : Nat := 0
  afterOperand : Bool := false

namespace Lexer

/-! ### Words, strings and numbers -/

/-- The token of a word: a keyword or an identifier. -/
def wordToken (word : String) : Token :=
  if word = "true" ∨ word = "TRUE" then .boolean true
  else if word = "false" ∨ word = "FALSE" then .boolean false
  else if word = "and" then .and
  else if word = "or" then .or
  else .identifier word

/-- The content of a string literal after its opening quote, and the text after its closing
quote.  A backslash takes the next character as it is.  No content if the text ends first. -/
def quoted (quote : Char) : List Char → Option (List Char) × List Char
  | [] => (none, [])
  | ['\\'] => (none, [])
  | '\\' :: c :: cs =>
    let (content, rest) := quoted quote cs
    (content.map (c :: ·), rest)
  | c :: cs =>
    if c = quote then (some [], cs)
    else
      let (content, rest) := quoted quote cs
      (content.map (c :: ·), rest)

/-- The digits after a point, if a digit follows the point, and the text after them. -/
def fraction : List Char → List Char × List Char
  | '.' :: c :: cs =>
    if Decimal.isDigit c then (c :: cs.takeWhile Decimal.isDigit, cs.dropWhile Decimal.isDigit)
    else ([], '.' :: c :: cs)
  | cs => ([], cs)

/-- The number whose digits stand at the front of a text, and the text after it. -/
def numeral (cs : List Char) : Float × List Char :=
  let whole := cs.takeWhile Decimal.isDigit
  let (fraction, rest) := fraction (cs.dropWhile Decimal.isDigit)
  ((Decimal.ofDigits whole fraction 0).toFloat, rest)

/-! ### Symbols -/

/-- The symbols of two characters. -/
def pairToken : Char → Char → Option Token
  | '=', '>' => some .arrow
  | '=', '=' => some .equal
  | '!', '=' => some .notEqual
  | '<', '=' => some .lessEqual
  | '>', '=' => some .greaterEqual
  | '&', '&' => some .and
  | '|', '|' => some .or
  | _, _ => none

/-- The symbols of one character. -/
def singleToken : Char → Option Token
  | '<' => some .less
  | '>' => some .greater
  | '!' => some .bang
  | '+' => some .plus
  | '-' => some .minus
  | '*' => some .star
  | '/' => some .slash
  | '%' => some .percent
  | '?' => some .question
  | ':' => some .colon
  | '(' => some .openParen
  | ')' => some .closeParen
  | '{' => some .openBrace
  | '}' => some .closeBrace
  | '[' => some .openBracket
  | ']' => some .closeBracket
  | ',' => some .comma
  | '.' => some .dot
  | _ => none

/-- The symbol at the front of a text, two characters before one, and the text after it.  A
character that is no symbol is passed over. -/
def symbol (c : Char) (cs : List Char) : Option Token × List Char :=
  match cs with
  | [] => (singleToken c, [])
  | d :: rest =>
    match pairToken c d with
    | some token => (some token, rest)
    | none => (singleToken c, d :: rest)

/-! ### One step -/

/-- Whether a text starts with a digit. -/
def startsWithDigit : List Char → Bool
  | [] => false
  | c :: _ => Decimal.isDigit c

/-- One step at the front of the text `c :: cs`: the token found there, if any, and the text
after what was found or passed over. -/
def scan (afterOperand : Bool) (c : Char) (cs : List Char) : Option Token × List Char :=
  if c = '"' ∨ c = '\'' then
    let (content, rest) := quoted c cs
    (content.map fun content => .text (String.ofList content), rest)
  else if Letter.startsWord c then
    (some (wordToken (String.ofList (c :: cs.takeWhile Letter.continuesWord))),
      cs.dropWhile Letter.continuesWord)
  else if Decimal.isDigit c then
    let (value, rest) := numeral (c :: cs)
    (some (.number value), rest)
  else if c = '-' ∧ !afterOperand ∧ startsWithDigit cs then
    let (value, rest) := numeral cs
    (some (.number (-value)), rest)
  else symbol c cs

theorem length_dropWhile_le (p : Char → Bool) (cs : List Char) :
    (cs.dropWhile p).length ≤ cs.length :=
  (List.dropWhile_suffix p).length_le

theorem length_quoted_le (quote : Char) (cs : List Char) :
    (quoted quote cs).2.length ≤ cs.length := by
  fun_induction quoted quote cs <;> simp_all <;> omega

theorem length_fraction_le (cs : List Char) : (fraction cs).2.length ≤ cs.length := by
  fun_cases fraction cs with
  | case1 c cs h => have := length_dropWhile_le Decimal.isDigit cs; simp; omega
  | case2 c cs h => simp
  | case3 cs h => simp

theorem length_numeral_le (cs : List Char) :
    (numeral cs).2.length ≤ (cs.dropWhile Decimal.isDigit).length :=
  length_fraction_le _

theorem length_symbol_le (c : Char) (cs : List Char) : (symbol c cs).2.length ≤ cs.length := by
  fun_cases symbol c cs <;> simp

/-- A step takes at least the first character. -/
theorem length_scan_le (afterOperand : Bool) (c : Char) (cs : List Char) :
    (scan afterOperand c cs).2.length ≤ cs.length := by
  fun_cases scan afterOperand c cs with
  | case1 h content rest hq =>
    have := length_quoted_le c cs
    rw [hq] at this; exact this
  | case2 h h' => exact length_dropWhile_le _ cs
  | case3 h h' hd value rest hn =>
    have := length_numeral_le (c :: cs)
    rw [hn, List.dropWhile_cons_of_pos hd] at this
    exact Nat.le_trans this (length_dropWhile_le _ cs)
  | case4 h h' hd hm value rest hn =>
    have := length_numeral_le cs
    rw [hn] at this
    exact Nat.le_trans this (length_dropWhile_le _ cs)
  | case5 => exact length_symbol_le c cs

theorem wordToken_ne_eof (word : String) : wordToken word ≠ .eof := by
  fun_cases wordToken word <;> simp

theorem pairToken_ne_eof (c d : Char) : pairToken c d ≠ some .eof := by
  fun_cases pairToken c d <;> simp

theorem singleToken_ne_eof (c : Char) : singleToken c ≠ some .eof := by
  fun_cases singleToken c <;> simp

/-- The end of the text is never found at a character. -/
theorem scan_ne_eof (afterOperand : Bool) (c : Char) (cs : List Char) :
    (scan afterOperand c cs).1 ≠ some .eof := by
  fun_cases scan afterOperand c cs with
  | case1 h content rest hq => cases content <;> simp
  | case2 h h' => simpa using wordToken_ne_eof _
  | case3 => simp
  | case4 => simp
  | case5 =>
    fun_cases symbol c cs with
    | case1 => exact singleToken_ne_eof c
    | case2 d rest token h => exact h ▸ pairToken_ne_eof c d
    | case3 => exact singleToken_ne_eof c

/-! ### All tokens -/

/-- The next token and the lexer after it.  At the end of the text the end is found again and
again. -/
def next : Lexer → Lexeme × Lexer
  | ⟨[], position, _⟩ => (⟨.eof, position⟩, ⟨[], position, false⟩)
  | ⟨c :: cs, position, afterOperand⟩ =>
    let step := scan afterOperand c cs
    let after := position + (cs.length + 1 - step.2.length)
    match step.1 with
    | some token => (⟨token, position⟩, ⟨step.2, after, token.endsOperand⟩)
    | none => next ⟨step.2, after, afterOperand⟩
  termination_by lexer => lexer.rest.length
  decreasing_by exact Nat.lt_succ_of_le (length_scan_le afterOperand c cs)

/-- All tokens that a lexer finds, the end of the text as the last one. -/
def tokens : Lexer → List Lexeme
  | ⟨[], position, _⟩ => [⟨.eof, position⟩]
  | ⟨c :: cs, position, afterOperand⟩ =>
    let step := scan afterOperand c cs
    let after := position + (cs.length + 1 - step.2.length)
    match step.1 with
    | some token => ⟨token, position⟩ :: tokens ⟨step.2, after, token.endsOperand⟩
    | none => tokens ⟨step.2, after, afterOperand⟩
  termination_by lexer => lexer.rest.length
  decreasing_by all_goals exact Nat.lt_succ_of_le (length_scan_le afterOperand c cs)

/-- The tokens of a lexer are what `next` finds, up to the end of the text. -/
theorem tokens_eq (lexer : Lexer) :
    lexer.tokens =
      lexer.next.1 :: if lexer.next.1.token = .eof then [] else lexer.next.2.tokens := by
  fun_induction tokens lexer with
  | case1 => simp [next]
  | case2 c cs position afterOperand step after token h ih =>
    have hne : token ≠ .eof := fun e => scan_ne_eof _ _ _ (e ▸ h)
    rw [next]
    simp only [step, after] at h ⊢
    simp [h, hne]
  | case3 c cs position afterOperand step after h ih =>
    rw [next]
    simp only [step, after] at h ih ⊢
    simp [h, ih]

end Lexer

/-- The tokens of a text. -/
def tokenize (source : String) : List Lexeme :=
  Lexer.tokens ⟨source.toList, 0, false⟩

end HostExpr
