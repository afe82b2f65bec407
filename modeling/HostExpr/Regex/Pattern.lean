import HostExpr.Entries
import HostExpr.Regex.Bracket

/-!
# Reading patterns

A pattern is read from left to right with the groups that are still open on a stack.

* `Item`: a part of a pattern that was read, with its depth;
* `Frame`: an open group and what stands before it;
* `Reading`: what was read so far;
* `Reading.step`: reads one part;
* `Pattern.read?`: the tree of a whole pattern, with its number of groups and their names.

Parts may be nested `maxDepth` levels deep.
-/

namespace HostExpr.Regex

/-- The levels of nesting that a pattern may have. -/
def maxDepth : Nat := 250

/-! ### Parts -/

/-- A part of a pattern.  A switch of flags is a part that matches nothing and cannot be
repeated. -/
structure Item where
  node : Node
  depth : Nat
  isSwitch : Bool := false

/-- Parts after one another, the last one given first. -/
def Item.sequence (items : List Item) : Item :=
  match items with
  | [] => { node := .empty, depth := 0 }
  | [item] => { item with isSwitch := false }
  | items =>
    { node := .sequence (items.reverse.map Item.node)
      depth := (items.map Item.depth).foldl Nat.max 0 + 1 }

/-- Alternatives, the last one given first. -/
def Item.choice (items : List Item) : Item :=
  match items with
  | [item] => item
  | items =>
    { node := .choice (items.reverse.map Item.node)
      depth := (items.map Item.depth).foldl Nat.max 0 + 1 }

/-- An open group: what was read of the group around it, the number under which it is kept, if it
is, and the flags to go back to. -/
structure Frame where
  items : List Item
  alternatives : List Item
  index? : Option Nat
  flags : Flags

/-- What was read so far: the parts of the current alternative, the alternatives before it, the
open groups, and the groups that have a number or a name. -/
structure Reading where
  flags : Flags := {}
  items : List Item := []
  alternatives : List Item := []
  stack : List Frame := []
  groups : Nat := 0
  names : List (String × Nat) := []

namespace Reading

/-- Adds a part. -/
def add (r : Reading) (node : Node) (depth : Nat) : Reading :=
  { r with items := { node, depth } :: r.items }

/-- What was read of the current group. -/
def group (r : Reading) : Item :=
  .choice (.sequence r.items :: r.alternatives)

/-! ### Groups -/

/-- Opens a group. -/
def openGroup (r : Reading) (index? : Option Nat) (flags : Flags) : Reading :=
  { r with
    flags
    items := []
    alternatives := []
    stack := ⟨r.items, r.alternatives, index?, r.flags⟩ :: r.stack }

/-- Opens a group that is kept under the next number. -/
def openCapture (r : Reading) : Reading :=
  { r with groups := r.groups + 1 }.openGroup (some (r.groups + 1)) r.flags

/-- Closes the innermost group. -/
def closeGroup? (r : Reading) : Option Reading :=
  match r.stack with
  | [] => none
  | frame :: stack =>
    let body := r.group
    let node := match frame.index? with
      | some index => .group index body.node
      | none => body.node
    some
      { r with
        flags := frame.flags
        items := { node, depth := body.depth + 1 } :: frame.items
        alternatives := frame.alternatives
        stack }

/-- Whether a name of a group may hold a character. -/
def nameChar (first : Bool) (c : Char) : Bool :=
  Letter.isAlphabetic c || c = '_' ||
    (!first && (Letter.isNumeric c || c = '.' || c = '[' || c = ']'))

/-- Whether a text is the name of a group. -/
def isName : List Char → Bool
  | [] => false
  | c :: cs => nameChar true c && cs.all (nameChar false)

/-- Opens a group with a name, which no other group may have. -/
def openNamed (r : Reading) : Scan Reading := fun cs =>
  let name := cs.takeWhile (· ≠ '>')
  let key := String.ofList name
  match cs.dropWhile (· ≠ '>') with
  | [] => none
  | _ :: rest =>
    if isName name && (Entries.find? key r.names).isNone then
      some ({ r.openCapture with names := r.names ++ [(key, r.groups + 1)] }, rest)
    else none

/-- Reads what stands after an opening parenthesis: a name, flags or nothing. -/
def readGroup (r : Reading) : Scan Reading := do
  advance r.flags
  if ← accept "?P<" then r.openNamed
  else if ← accept "?<" then r.openNamed
  else if ← accept "?" then
    let (flags, none?) ← readFlags r.flags
    let mark ← current
    bump
    if mark = ')' then
      require (!none?)
      return { r with flags, items := { node := .empty, depth := 0, isSwitch := true } :: r.items }
    else
      return r.openGroup none flags
  else
    return r.openCapture

/-! ### Repetitions -/

/-- Whether a question mark follows, which is read. -/
def readLazy : Scan Bool := accept "?"

/-- Repeats the last part, which has to be there and to be no switch. -/
def repeatLast (r : Reading) (min : Nat) (max? : Option Nat) (lazy : Bool) : Scan Reading :=
  match r.items with
  | [] => invalid
  | item :: items => do
    require (!item.isSwitch)
    let greedy := lazy == r.flags.swapGreed
    return { r with items := ⟨.repeated item.node min max? greedy, item.depth + 1, false⟩ :: items }

/-- A repetition by `?`, `*` or `+`. -/
def readRepetition (r : Reading) (min : Nat) (max? : Option Nat) : Scan Reading := do
  bump
  r.repeatLast min max? (← readLazy)

/-- A count, with blanks around it; one beyond 32 bits is not valid. -/
def readCount (flags : Flags) : Scan Nat := fun cs =>
  let cs := cs.dropWhile Blank.isBlank
  let isPart (c : Char) := Decimal.isDigit c || (flags.verbose && Blank.isBlank c)
  let digits := (cs.takeWhile isPart).filter Decimal.isDigit
  let count := Decimal.valueOfDigits digits
  if digits = [] ∨ Nat.pow 2 32 ≤ count then none
  else some (count, (cs.dropWhile isPart).dropWhile Blank.isBlank)

/-- A repetition by counts in braces. -/
def readCounts (r : Reading) : Scan Reading := do
  advance r.flags
  let least ← readCount r.flags
  let most? ←
    if (← current) = ',' then do
      advance r.flags
      if (← current) = '}' then pure none else some <$> readCount r.flags
    else pure (some least)
  require ((← current) = '}')
  advance r.flags
  require (most?.all (least ≤ ·))
  r.repeatLast least most? (← readLazy)

/-! ### Single parts -/

/-- A character that stands for itself. -/
def literal (flags : Flags) (c : Char) : Node :=
  if flags.unicode || c.toNat < 0x80 then .set (flags.close (.single c)) else .set (.single c)

/-- The characters that a point matches. -/
def pointSet (flags : Flags) : CharSet :=
  if flags.dotAll then .all
  else if flags.crlf then (CharSet.mk [(0x0a, 0x0a), (0x0d, 0x0d)]).complement
  else (CharSet.single '\n').complement

/-- The start of the text, or of a line. -/
def startLook (flags : Flags) : Look :=
  if !flags.multiLine then .textStart else if flags.crlf then .lineStartCrlf else .lineStart

/-- The end of the text, or of a line. -/
def endLook (flags : Flags) : Look :=
  if !flags.multiLine then .textEnd else if flags.crlf then .lineEndCrlf else .lineEnd

/-- An escape outside of classes. -/
def readEscaped (r : Reading) : Scan Reading := do
  match ← readEscape r.flags with
  | .char c byte =>
    require (r.flags.unicode || c.toNat < 0x80 || !byte)
    return r.add (literal r.flags c) 0
  | .set s => return r.add (.set s) 0
  | .look l => return r.add (.look l) 0

/-- Reads one part of a pattern, which starts with the given character. -/
def step (r : Reading) (c : Char) : Scan Reading := do
  match c with
  | '(' => r.readGroup
  | ')' =>
    bump
    orInvalid r.closeGroup?
  | '|' =>
    bump
    return { r with items := [], alternatives := .sequence r.items :: r.alternatives }
  | '[' =>
    let (s, depth) ← readBracket r.flags
    return r.add (.set s) depth
  | '?' => r.readRepetition 0 (some 1)
  | '*' => r.readRepetition 0 none
  | '+' => r.readRepetition 1 none
  | '{' => r.readCounts
  | '\\' => r.readEscaped
  | '.' =>
    require r.flags.unicode
    bump
    return r.add (.set (pointSet r.flags)) 0
  | '^' =>
    bump
    return r.add (.look (startLook r.flags)) 0
  | '$' =>
    bump
    return r.add (.look (endLook r.flags)) 0
  | c =>
    bump
    return r.add (literal r.flags c) 0

/-- Reads parts up to the end of the pattern, at most the given number. -/
def steps : Nat → Reading → Scan Reading
  | 0, r => do
    require (← get).isEmpty
    return r
  | n + 1, r => do
    skipIgnored r.flags
    match ← peek? with
    | none => return r
    | some c => steps n (← r.step c)

end Reading

/-! ### Whole patterns -/

/-- A pattern that was read. -/
structure Pattern where
  node : Node
  groups : Nat
  names : List (String × Nat)

/-- The pattern that a text spells.  Every part has at least one character, and no group may be
left open. -/
def Pattern.read? (source : List Char) : Option Pattern := do
  let (r, _) ← (Reading.steps source.length {}).run source
  let body := r.group
  if r.stack.isEmpty ∧ body.depth ≤ maxDepth then some ⟨body.node, r.groups, r.names⟩ else none

end HostExpr.Regex
