import HostExpr.Text.Category
import HostExpr.Text.Letter

/-!
# Regular expressions as trees

* `Place`: a place between two characters of a text;
* `Look`: what can be asked of a place without reading a character, and `Look.holds`;
* `Node`: the tree of a regular expression;
* `Node.onlyEmpty`: whether a tree can match nothing but the empty text;
* `Node.canBeEmpty`: whether a tree can match the empty text;
* `Node.repeated`: a tree matched several times.
-/

namespace HostExpr.Regex

/-! ### Places -/

/-- A place in a text: how many characters stand before it, and the characters on both sides. -/
structure Place where
  offset : Nat
  before? : Option Char
  after? : Option Char

/-- The characters of words: letters, marks, decimal digits, connecting punctuation and joiners. -/
def wordSet : CharSet :=
  let named := ["m", "nd", "pc"].filterMap Category.find?
  CharSet.normalize
    ⟨Letter.alphabetic.ranges ++ named.flatMap CharSet.ranges ++ [(0x200c, 0x200d)]⟩

/-- The characters of words in ASCII. -/
def asciiWordSet : CharSet :=
  ⟨[(0x30, 0x39), (0x41, 0x5a), (0x5f, 0x5f), (0x61, 0x7a)]⟩

/-- Whether a character belongs to a word. -/
def isWord (unicode : Bool) (c : Char) : Bool :=
  if unicode && 0x80 ≤ c.toNat then wordSet.contains c else asciiWordSet.contains c

namespace Place

/-- Whether a character of a word stands before the place. -/
def wordBefore (unicode : Bool) (place : Place) : Bool :=
  place.before?.any (isWord unicode)

/-- Whether a character of a word stands after the place. -/
def wordAfter (unicode : Bool) (place : Place) : Bool :=
  place.after?.any (isWord unicode)

end Place

/-! ### Assertions -/

/-- What can be asked of a place.  Questions about words are asked for Unicode or for ASCII. -/
inductive Look where
  | textStart
  | textEnd
  | lineStart
  | lineEnd
  /-- The start of a line, where a return, a line feed or both in this order end a line. -/
  | lineStartCrlf
  /-- The end of a line, where a return, a line feed or both in this order end a line. -/
  | lineEndCrlf
  | boundary (unicode : Bool)
  | noBoundary (unicode : Bool)
  | wordStart (unicode : Bool)
  | wordEnd (unicode : Bool)
  | wordStartHalf (unicode : Bool)
  | wordEndHalf (unicode : Bool)
  deriving DecidableEq, Repr

/-- Whether what is asked holds at a place. -/
def Look.holds (place : Place) : Look → Bool
  | textStart => place.before?.isNone
  | textEnd => place.after?.isNone
  | lineStart => place.before?.all (· = '\n')
  | lineEnd => place.after?.all (· = '\n')
  | lineStartCrlf =>
    place.before?.all fun c => c = '\n' || (c = '\r' && place.after? != some '\n')
  | lineEndCrlf =>
    place.after?.all fun c => c = '\r' || (c = '\n' && place.before? != some '\r')
  | boundary u => place.wordBefore u != place.wordAfter u
  | noBoundary u => place.wordBefore u == place.wordAfter u
  | wordStart u => !place.wordBefore u && place.wordAfter u
  | wordEnd u => place.wordBefore u && !place.wordAfter u
  | wordStartHalf u => !place.wordBefore u
  | wordEndHalf u => !place.wordAfter u

/-! ### Trees -/

/-- A regular expression. -/
inductive Node where
  | empty
  /-- One character of a set. -/
  | set (chars : CharSet)
  | look (look : Look)
  /-- A group whose match is kept under its number. -/
  | group (index : Nat) (body : Node)
  | seq (items : List Node)
  /-- Alternatives, the preferred one first. -/
  | alt (items : List Node)
  /-- From `min` to `max?` matches, as many or as few as possible. -/
  | loop (body : Node) (min : Nat) (max? : Option Nat) (greedy : Bool)

namespace Node

mutual

/-- Whether a tree can match nothing but the empty text. -/
def onlyEmpty : Node → Bool
  | empty | look _ => true
  | set _ => false
  | group _ body => onlyEmpty body
  | seq items => allOnlyEmpty items
  | alt items => !items.isEmpty && allOnlyEmpty items
  | loop body _ _ _ => onlyEmpty body

/-- Whether all trees of a list can match nothing but the empty text. -/
def allOnlyEmpty : List Node → Bool
  | [] => true
  | item :: items => onlyEmpty item && allOnlyEmpty items

end

mutual

/-- Whether a tree can match the empty text. -/
def canBeEmpty : Node → Bool
  | empty | look _ => true
  | set _ => false
  | group _ body => canBeEmpty body
  | seq items => allCanBeEmpty items
  | alt items => anyCanBeEmpty items
  | loop body min _ _ => min == 0 || canBeEmpty body

/-- Whether all trees of a list can match the empty text. -/
def allCanBeEmpty : List Node → Bool
  | [] => true
  | item :: items => canBeEmpty item && allCanBeEmpty items

/-- Whether some tree of a list can match the empty text. -/
def anyCanBeEmpty : List Node → Bool
  | [] => false
  | item :: items => canBeEmpty item || anyCanBeEmpty items

end

/-- A tree matched several times.  What matches only the empty text need not be matched twice, and
what is matched no times, groups included, is left out. -/
def repeated (body : Node) (min : Nat) (max? : Option Nat) (greedy : Bool) : Node :=
  let least := if body.onlyEmpty then Nat.min min 1 else min
  let most? := if body.onlyEmpty then some (Nat.min (max?.getD 1) 1) else max?
  match least, most? with
  | 0, some 0 => empty
  | 1, some 1 => body
  | least, most? => loop body least most? greedy

/-- Trees matched one after another. -/
def sequence : List Node → Node
  | [] => empty
  | [item] => item
  | items => seq items

/-- Trees of which one is matched. -/
def choice : List Node → Node
  | [item] => item
  | items => alt items

end Node

end HostExpr.Regex
