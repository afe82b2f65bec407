import HostExpr.Number.Decimal
import HostExpr.Regex.Search

/-!
# Replacing matches

* `Template`: the parts of a replacement text: characters and references to groups;
* `Template.read`: reads `$name`, `${name}` and `$$`;
* `Program.captures?`: the texts of the groups of the first match;
* `Program.replaceAll`: a text with all matches replaced.
-/

namespace HostExpr.Regex

/-- A part of a replacement text. -/
inductive Template where
  | char (c : Char)
  /-- A reference to a group, by number or by name. -/
  | group (name : List Char)

namespace Template

/-- Whether a character may stand in a reference without braces. -/
def nameChar (c : Char) : Bool :=
  c.isAlphanum || c = '_'

/-- The reference after a dollar sign, if there is one, and the text after it.  Without braces it
takes as many characters as it can. -/
def reference? (cs : List Char) : Option (List Char × List Char) :=
  match cs with
  | '{' :: cs =>
    match cs.dropWhile (· ≠ '}') with
    | [] => none
    | _ :: rest => some (cs.takeWhile (· ≠ '}'), rest)
  | cs =>
    let name := cs.takeWhile nameChar
    if name = [] then none else some (name, cs.dropWhile nameChar)

/-- The parts of a replacement text, at most the given number.  A dollar sign without a reference
stands for itself. -/
def readUpTo : Nat → List Char → List Template
  | 0, _ | _ + 1, [] => []
  | n + 1, '$' :: '$' :: cs => char '$' :: readUpTo n cs
  | n + 1, '$' :: cs =>
    match reference? cs with
    | none => char '$' :: readUpTo n cs
    | some (name, rest) => group name :: readUpTo n rest
  | n + 1, c :: cs => char c :: readUpTo n cs

/-- The parts of a replacement text.  Each of them has at least one character. -/
def read (cs : List Char) : List Template :=
  readUpTo cs.length cs

end Template

namespace Program

/-- The characters of a span. -/
def slice (cs : List Char) (span : Nat × Nat) : List Char :=
  (cs.drop span.1).take (span.2 - span.1)

/-- The number of the group that a reference means: a number of 64 bits, or a name. -/
def groupNumber? (p : Program) (name : List Char) : Option Nat :=
  (Decimal.readIndex? name).or (Entries.find? (String.ofList name) p.names)

/-- The text that a part of a replacement stands for; nothing for a group that is not there or took
no part in the match. -/
def expand (p : Program) (cs : List Char) (m : Match) : Template → List Char
  | .char c => [c]
  | .group name =>
    match (p.groupNumber? name).bind (m.spans[·]?) with
    | some (some span) => slice cs span
    | _ => []

/-- The text from a place on with matches replaced. -/
def replaceFrom (p : Program) (cs : List Char) (template : List Template) :
    Nat → List Match → List Char
  | offset, [] => cs.drop offset
  | offset, m :: rest =>
    slice cs (offset, m.span.1) ++ template.flatMap (p.expand cs m) ++
      replaceFrom p cs template m.span.2 rest

/-- A text with all matches replaced. -/
def replaceAll (p : Program) (cs replacement : List Char) : List Char :=
  p.replaceFrom cs (Template.read replacement) 0 (p.allMatches cs)

/-- The texts of the groups of the first match, the whole match first. -/
def captures? (p : Program) (cs : List Char) : Option (List (Option (List Char))) :=
  (p.firstMatch? cs).map fun m => m.spans.map fun span => span.map (slice cs)

end Program

end HostExpr.Regex
