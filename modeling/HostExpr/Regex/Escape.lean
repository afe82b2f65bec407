import HostExpr.Number.Decimal
import HostExpr.Regex.CharClass

/-!
# Escapes in patterns

* `Escape`: what a backslash and the characters after it stand for;
* `readEscape`: reads them.
-/

namespace HostExpr.Regex

/-- What an escape stands for. -/
inductive Escape where
  /-- A character; `byte` tells that it was given as two hexadecimal digits. -/
  | char (c : Char) (byte : Bool)
  | set (s : CharSet)
  | look (l : Look)

/-- The character of a code point. -/
def charOf? (code : Nat) : Option Char :=
  if code.isValidChar then some (Char.ofNat code) else none

/-! ### Code points -/

/-- Reads the given number of hexadecimal digits after those that make up `code`. -/
def readHexDigits (flags : Flags) : Nat → Nat → Scan Nat
  | 0, code => pure code
  | n + 1, code => do
    let d ← orInvalid (Hex.value? (← current))
    advance flags
    readHexDigits flags n (16 * code + d)

/-- Hexadecimal digits up to a closing brace, at least one. -/
def readHexBrace (flags : Flags) : Scan Nat := fun cs =>
  let digits := cs.takeWhile (· ≠ '}')
  let rest := cs.dropWhile (· ≠ '}')
  let digits := if flags.verbose then digits.filter (!Blank.isBlank ·) else digits
  if rest = [] ∨ digits = [] then none
  else do
    let values ← digits.mapM Hex.value?
    some (values.foldl (fun code d => 16 * code + d) 0, ignored flags rest.tail)

/-- A character by its code point: digits of a fixed number, or any number of them in braces. -/
def readCodePoint (flags : Flags) (digits : Nat) : Scan Escape := do
  advance flags
  let braced := (← current) = '{'
  let code ← if braced then do bump; readHexBrace flags else readHexDigits flags digits 0
  return .char (← orInvalid (charOf? code)) (digits = 2 && !braced)

/-! ### Classes and boundaries -/

/-- A class of Unicode, by one letter or by a name in braces. -/
def readProperty (flags : Flags) (capital : Bool) : Scan Escape := do
  advance flags
  let query ←
    if (← current) = '{' then do
      bump
      let cs ← get
      let name := cs.takeWhile (· ≠ '}')
      match cs.dropWhile (· ≠ '}') with
      | [] => invalid
      | _ :: rest =>
        set rest
        pure (if flags.verbose then name.filter (!Blank.isBlank ·) else name)
    else do
      let c ← current
      require (c != '\\')
      advance flags
      pure [c]
  return .set (← orInvalid (propertySet? flags capital query))

/-- A special boundary of words in braces, if the braces hold a name and not a number. -/
def readBoundary (flags : Flags) : Scan Escape := do
  let plain : Escape := .look (.boundary flags.unicode)
  match (← get) with
  | '{' :: cs =>
    let isLetter (c : Char) := c.isAlpha || c = '-'
    let cs := ignored flags cs
    match cs with
    | [] => invalid
    | c :: _ =>
      if !isLetter c then return plain
      else
        let name := cs.takeWhile fun c => isLetter c || (flags.verbose && Blank.isBlank c)
        match cs.drop name.length with
        | '}' :: rest =>
          set rest
          match String.ofList (name.filter isLetter) with
          | "start" => return .look (.wordStart flags.unicode)
          | "end" => return .look (.wordEnd flags.unicode)
          | "start-half" => return .look (.wordStartHalf flags.unicode)
          | "end-half" => return .look (.wordEndHalf flags.unicode)
          | _ => invalid
        | _ => invalid
  | _ => return plain

/-! ### All escapes -/

/-- Whether a character stands for itself after a backslash: every character of ASCII but letters,
digits and the angle brackets. -/
def escapesItself (c : Char) : Bool :=
  c.toNat < 0x80 && !c.isAlphanum && c != '<' && c != '>'

/-- The control character of a letter after a backslash. -/
def controlEscape? : Char → Option Char
  | 'a' => some '\x07'
  | 'f' => some '\x0c'
  | 't' => some '\t'
  | 'n' => some '\n'
  | 'r' => some '\r'
  | 'v' => some '\x0b'
  | _ => none

/-- The assertion of a character after a backslash. -/
def lookEscape? (flags : Flags) : Char → Option Look
  | 'A' => some .textStart
  | 'z' => some .textEnd
  | 'B' => some (.noBoundary flags.unicode)
  | '<' => some (.wordStart flags.unicode)
  | '>' => some (.wordEnd flags.unicode)
  | _ => none

/-- Reads an escape, from its backslash on. -/
def readEscape (flags : Flags) : Scan Escape := do
  bump
  let c ← current
  match c with
  | 'x' => readCodePoint flags 2
  | 'u' => readCodePoint flags 4
  | 'U' => readCodePoint flags 8
  | 'p' => readProperty flags false
  | 'P' => readProperty flags true
  | 'b' =>
    bump
    readBoundary flags
  | _ =>
    bump
    match letterSet? flags c, controlEscape? c, lookEscape? flags c with
    | some s, _, _ => return .set (← orInvalid (flags.checked? s))
    | _, some d, _ => return .char d false
    | _, _, some l => return .look l
    | _, _, _ =>
      require (escapesItself c)
      return .char c false

end HostExpr.Regex
