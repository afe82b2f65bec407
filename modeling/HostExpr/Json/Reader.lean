import HostExpr.Json.Number

/-!
# Reading JSON texts

* `Json.readText`: the content of a quoted text;
* `Json.readDocument levels`: a document with at most `levels` levels of lists and maps;
* `Json.read?`: the document that a whole text spells, at most `Json.maxLevels` levels deep.

The rules of the grammar do not depend on how numbers are read.  `Json.readDocumentWith` and
`Json.readWith?` are the same over any way to read a number.
-/

namespace HostExpr.Json

/-! ### Blanks and words -/

/-- Whether a character may stand between the parts of a document. -/
def isBlank (c : Char) : Bool :=
  c = ' ' || c = '\t' || c = '\n' || c = '\r'

/-- The text from the first character that is no blank. -/
def skipBlanks (cs : List Char) : List Char :=
  cs.dropWhile isBlank

/-- The text after a given word, if it starts with it. -/
def afterWord : List Char → List Char → Option (List Char)
  | [], cs => some cs
  | _, [] => none
  | w :: word, c :: cs => if w = c then afterWord word cs else none

/-! ### Quoted texts -/

/-- The number of four hexadecimal digits. -/
def hexCode? (a b c d : Char) : Option Nat := do
  some (4096 * (← Hex.value? a) + 256 * (← Hex.value? b) + 16 * (← Hex.value? c) + (← Hex.value? d))

/-- The character of a backslash escape of one letter. -/
def shortEscape? : Char → Option Char
  | '"' => some '"'
  | '\\' => some '\\'
  | '/' => some '/'
  | 'b' => some '\x08'
  | 'f' => some '\x0c'
  | 'n' => some '\n'
  | 'r' => some '\r'
  | 't' => some '\t'
  | _ => none

/-- The content of a quoted text after its opening mark, and the text after its closing mark.
Characters below U+0020 have to be escaped, and surrogates come in pairs. -/
def readText : List Char → Option (List Char × List Char)
  | [] => none
  | '"' :: cs => some ([], cs)
  | '\\' :: 'u' :: a :: b :: c :: d :: cs =>
    match hexCode? a b c d with
    | none => none
    | some code =>
      if 0xd800 ≤ code ∧ code < 0xdc00 then
        match cs with
        | '\\' :: 'u' :: e :: f :: g :: h :: cs =>
          match hexCode? e f g h with
          | none => none
          | some low =>
            if 0xdc00 ≤ low ∧ low < 0xe000 then
              let c := Char.ofNat (0x10000 + 0x400 * (code - 0xd800) + (low - 0xdc00))
              (readText cs).map fun (content, rest) => (c :: content, rest)
            else none
        | _ => none
      else if 0xdc00 ≤ code ∧ code < 0xe000 then none
      else (readText cs).map fun (content, rest) => (Char.ofNat code :: content, rest)
  | '\\' :: c :: cs =>
    match shortEscape? c with
    | none => none
    | some c => (readText cs).map fun (content, rest) => (c :: content, rest)
  | c :: cs =>
    if c.toNat < 0x20 then none
    else (readText cs).map fun (content, rest) => (c :: content, rest)

/-! ### Documents -/

/-- A way to read something at the front of a text. -/
abbrev Reader (α : Type) := List Char → Option (α × List Char)

/-- Items with commas between them, up to a closing bracket; at most the given number. -/
def readItems {α : Type} (item : Reader α) (closing : Char) : Nat → Reader (List α)
  | 0, _ => none
  | n + 1, cs => do
    let (x, cs) ← item (skipBlanks cs)
    match skipBlanks cs with
    | [] => none
    | c :: cs =>
      if c = ',' then
        let (xs, cs) ← readItems item closing n cs
        some (x :: xs, cs)
      else if c = closing then some ([x], cs)
      else none

/-- The items after an opening bracket, perhaps none.  No text has more items than characters. -/
def readBracket {α : Type} (item : Reader α) (closing : Char) : Reader (List α) := fun cs =>
  match skipBlanks cs with
  | [] => none
  | c :: rest => if c = closing then some ([], rest) else readItems item closing rest.length.succ cs

/-- An entry of a map. -/
def readEntry (value : Reader Json) : Reader (String × Json)
  | '"' :: cs => do
    let (key, cs) ← readText cs
    match skipBlanks cs with
    | ':' :: cs =>
      let (x, cs) ← value (skipBlanks cs)
      some ((String.ofList key, x), cs)
    | _ => none
  | _ => none

/-- A document that is neither a list nor a map. -/
def readScalar (number : Reader Json) : Reader Json
  | '"' :: cs => (readText cs).map fun (content, rest) => (text (String.ofList content), rest)
  | cs =>
    match afterWord "null".toList cs, afterWord "true".toList cs, afterWord "false".toList cs with
    | some rest, _, _ => some (null, rest)
    | _, some rest, _ => some (boolean true, rest)
    | _, _, some rest => some (boolean false, rest)
    | _, _, _ => number cs

/-- A document with at most the given number of levels of lists and maps, numbers being read in the
given way. -/
def readDocumentWith (number : Reader Json) : Nat → Reader Json
  | levels + 1, '[' :: cs =>
    (readBracket (readDocumentWith number levels) ']' cs).map fun (items, rest) => (list items, rest)
  | levels + 1, '{' :: cs =>
    (readBracket (readEntry (readDocumentWith number levels)) '}' cs).map fun (entries, rest) =>
      (map (Entries.ofPairs entries), rest)
  | _, cs => readScalar number cs

/-- A document with at most the given number of levels of lists and maps. -/
def readDocument (levels : Nat) : Reader Json :=
  readDocumentWith readNumber levels

/-- How many levels of lists and maps a document may have. -/
def maxLevels : Nat := 127

/-- The document that a whole text spells, numbers being read in the given way. -/
def readWith? (number : Reader Json) (source : String) : Option Json := do
  let (doc, rest) ← readDocumentWith number maxLevels (skipBlanks source.toList)
  if skipBlanks rest = [] then some doc else none

/-- The document that a whole text spells. -/
def read? (source : String) : Option Json :=
  readWith? readNumber source

end HostExpr.Json
