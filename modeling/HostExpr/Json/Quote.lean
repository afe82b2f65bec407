import HostExpr.Text.Hex

/-!
# Quoted texts in JSON

* `Json.quoteWith`: a text between quotation marks, each character through an escape;
* `Json.escapeControls`: spells every control character by its number, save the line break, the
  return and the tab;
* `Json.escapeShort`: has short escapes for backspace and form feed too, and leaves the control
  characters from U+007F on as they are.
-/

namespace HostExpr.Json

/-- The escape of a character by its number, in four hexadecimal digits. -/
def escapeCode (c : Char) : List Char :=
  let n := c.toNat
  ['\\', 'u', Hex.digit (n / 4096), Hex.digit (n / 256), Hex.digit (n / 16), Hex.digit n]

/-- Whether a character is a control character. -/
def isControl (c : Char) : Bool :=
  c.toNat < 0x20 || (0x7f ≤ c.toNat && c.toNat ≤ 0x9f)

/-- Short escapes where JSON needs them most, and every other control character by its number. -/
def escapeControls (c : Char) : List Char :=
  if c = '"' then ['\\', '"']
  else if c = '\\' then ['\\', '\\']
  else if c = '\n' then ['\\', 'n']
  else if c = '\r' then ['\\', 'r']
  else if c = '\t' then ['\\', 't']
  else if isControl c then escapeCode c
  else [c]

/-- All short escapes, and the other characters below U+0020 by their number. -/
def escapeShort (c : Char) : List Char :=
  if c = '\x08' then ['\\', 'b']
  else if c = '\x0c' then ['\\', 'f']
  else if c.toNat < 0x20 || c = '"' || c = '\\' then escapeControls c
  else [c]

/-- A text between quotation marks. -/
def quoteWith (escape : Char → List Char) (s : String) : List Char :=
  '"' :: (s.toList.flatMap escape ++ ['"'])

end HostExpr.Json
