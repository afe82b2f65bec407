import HostExpr.Regex.Flags
import HostExpr.Text.Folding
import HostExpr.Text.Property
import HostExpr.Text.Script

/-!
# Named classes of characters in patterns

* `Flags.close`: a set with what differs in case only, where case is ignored;
* `Flags.class?`: a set or its complement as a class;
* `letterSet?`: the classes `\d`, `\s` and `\w` and their complements;
* `asciiSet?`: the classes of ASCII such as `[:alpha:]`;
* `propertySet?`: the classes of Unicode such as `\p{Greek}`.

Where a pattern is not read for Unicode a class has to stay within ASCII.
-/

namespace HostExpr.Regex

/-! ### Case and complements -/

/-- A set with what differs in case only, where case is ignored. -/
def Flags.close (flags : Flags) (s : CharSet) : CharSet :=
  if !flags.ignoreCase then s
  else if flags.unicode then Folding.close s
  else Folding.closeAscii s

/-- The characters that are not in a set: all characters of Unicode or all bytes. -/
def Flags.complement (flags : Flags) (s : CharSet) : CharSet :=
  if flags.unicode then s.complement else s.complement.inter ⟨[(0, 0xff)]⟩

/-- A set as it may be matched: without Unicode only if it stays within ASCII. -/
def Flags.checked? (flags : Flags) (s : CharSet) : Option CharSet :=
  if flags.unicode || s.ranges.all (·.2 < 0x80) then some s else none

/-- A set or its complement as a class, if it may be matched. -/
def Flags.class? (flags : Flags) (negated : Bool) (s : CharSet) : Option CharSet :=
  let s := flags.close s.normalize
  flags.checked? (if negated then flags.complement s else s)

/-! ### Classes by letter -/

/-- The decimal digits. -/
def digitSet : CharSet :=
  (Category.find? "nd").getD .empty

/-- The decimal digits of ASCII. -/
def asciiDigitSet : CharSet := ⟨[(0x30, 0x39)]⟩

/-- The blanks of ASCII. -/
def asciiBlankSet : CharSet := ⟨[(0x09, 0x0d), (0x20, 0x20)]⟩

/-- The class of a letter after a backslash; a capital letter stands for the complement. -/
def letterSet? (flags : Flags) (letter : Char) : Option CharSet :=
  let pick (unicode ascii : CharSet) := if flags.unicode then unicode else ascii
  match letter with
  | 'd' => some (pick digitSet asciiDigitSet)
  | 's' => some (pick Blank.blanks asciiBlankSet)
  | 'w' => some (pick wordSet asciiWordSet)
  | 'D' => some (flags.complement (pick digitSet asciiDigitSet))
  | 'S' => some (flags.complement (pick Blank.blanks asciiBlankSet))
  | 'W' => some (flags.complement (pick wordSet asciiWordSet))
  | _ => none

/-! ### Classes of ASCII -/

/-- The class of ASCII with a name. -/
def asciiSet? : String → Option CharSet
  | "alnum" => some ⟨[(0x30, 0x39), (0x41, 0x5a), (0x61, 0x7a)]⟩
  | "alpha" => some ⟨[(0x41, 0x5a), (0x61, 0x7a)]⟩
  | "ascii" => some ⟨[(0, 0x7f)]⟩
  | "blank" => some ⟨[(0x09, 0x09), (0x20, 0x20)]⟩
  | "cntrl" => some ⟨[(0, 0x1f), (0x7f, 0x7f)]⟩
  | "digit" => some asciiDigitSet
  | "graph" => some ⟨[(0x21, 0x7e)]⟩
  | "lower" => some ⟨[(0x61, 0x7a)]⟩
  | "print" => some ⟨[(0x20, 0x7e)]⟩
  | "punct" => some ⟨[(0x21, 0x2f), (0x3a, 0x40), (0x5b, 0x60), (0x7b, 0x7e)]⟩
  | "space" => some asciiBlankSet
  | "upper" => some ⟨[(0x41, 0x5a)]⟩
  | "word" => some asciiWordSet
  | "xdigit" => some ⟨[(0x30, 0x39), (0x41, 0x46), (0x61, 0x66)]⟩
  | _ => none

/-! ### Classes of Unicode -/

/-- A name as it is looked up: its ASCII characters in lower case, without an `is` before it and
without spaces, hyphens and underscores. -/
def looseName (name : List Char) : String :=
  let lower := name.map Char.toLower
  let (hasIs, body) := match lower with
    | 'i' :: 's' :: cs => (true, cs)
    | cs => (false, cs)
  let kept := body.filter fun c => c.toNat < 0x80 && c != ' ' && c != '_' && c != '-'
  if hasIs && kept = ['c'] then "isc" else String.ofList kept

/-- The class of a name alone: a property, a category or a script, in this order. -/
def namedSet? (name : String) : Option CharSet :=
  (Property.find? name).or ((Category.find? name).or (Script.find? name))

/-- The class of a value of a property. -/
def valueSet? (property value : String) : Option CharSet :=
  if property = "gc" ∨ property = "generalcategory" then Category.find? value
  else if property = "sc" ∨ property = "script" then Script.find? value
  else if property = "scx" ∨ property = "scriptextensions" then Script.findExtended? value
  else none

/-- A text cut at the first occurrence of a mark. -/
def cutAt? (mark : List Char) : List Char → Option (List Char × List Char)
  | [] => none
  | c :: cs =>
    if mark.isPrefixOf (c :: cs) then some ([], (c :: cs).drop mark.length)
    else (cutAt? mark cs).map fun (head, tail) => (c :: head, tail)

/-- The class that stands between the braces of `\p`: a name, or a property and its value with `!=`,
`:` or `=` between them, which mean the same. -/
def querySet? (query : List Char) : Option CharSet :=
  match ((cutAt? ['!', '='] query).or (cutAt? [':'] query)).or (cutAt? ['='] query) with
  | some (property, value) => valueSet? (looseName property) (looseName value)
  | none => namedSet? (looseName query)

/-- The class of a query, negated if the letter before it was a capital; there are such classes for
Unicode only. -/
def propertySet? (flags : Flags) (capital : Bool) (query : List Char) : Option CharSet :=
  if flags.unicode then (querySet? query).bind (flags.class? capital) else none

end HostExpr.Regex
