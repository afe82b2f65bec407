import HostExpr.Text.HexTable

/-!
# Sets of characters as ranges of code points

A standard gives a property of characters as a list of ranges of code points, and a character
class of a pattern is built from such ranges.

* `CharSet.contains`: membership;
* `CharSet.ofTable`: reads a table such as `41-5a 61-7a aa`;
* `CharSet.union`, `CharSet.complement`, `CharSet.inter`, `CharSet.diff`, `CharSet.symmDiff`:
  the algebra of sets;
* `CharSet.closeUnder`: closes a set under classes of characters that count as the same.

Ranges may hold surrogate code points, which no character has.
-/

namespace HostExpr

/-- A set of characters: those whose code point lies in one of the closed ranges. -/
structure CharSet where
  ranges : List (Nat × Nat)
  deriving DecidableEq, Repr

namespace CharSet

/-! ### Membership -/

/-- Whether a code point lies in one of the ranges. -/
def containsCode (s : CharSet) (code : Nat) : Bool :=
  s.ranges.any fun r => r.1 ≤ code && code ≤ r.2

/-- Whether a character is in the set. -/
def contains (s : CharSet) (c : Char) : Bool :=
  s.containsCode c.toNat

/-- The set without characters. -/
def empty : CharSet := ⟨[]⟩

/-- The set of all characters. -/
def all : CharSet := ⟨[(0, 0x10ffff)]⟩

/-- The characters from `first` to `last`. -/
def interval (first last : Char) : CharSet := ⟨[(first.toNat, last.toNat)]⟩

/-- The set of one character. -/
def single (c : Char) : CharSet := interval c c

/-- The only character of a set that is given by one range. -/
def onlyChar? (s : CharSet) : Option Char :=
  match s.ranges with
  | [(a, b)] => if a = b then some (Char.ofNat a) else none
  | _ => none

/-! ### Tables -/

/-- The set that a table gives: code points and ranges such as `41-5a`. -/
def ofTable (table : List String) : CharSet :=
  ⟨(HexTable.entries table).map fun entry => (entry.headD 0, entry.getLastD 0)⟩

/-! ### Algebra -/

/-- Joins ranges that meet or touch, in a list ordered by lower ends. -/
def joinRanges : List (Nat × Nat) → List (Nat × Nat)
  | [] => []
  | [r] => [r]
  | (a, b) :: (c, d) :: rest =>
    if c ≤ b + 1 then joinRanges ((a, max b d) :: rest) else (a, b) :: joinRanges ((c, d) :: rest)
  termination_by ranges => ranges.length

/-- The same set, with ranges in order and apart from each other. -/
def normalize (s : CharSet) : CharSet :=
  ⟨joinRanges (s.ranges.mergeSort fun r t => r.1 ≤ t.1)⟩

/-- The ranges between given ranges, from `low` up. -/
def gaps : Nat → List (Nat × Nat) → List (Nat × Nat)
  | low, [] => if low ≤ 0x10ffff then [(low, 0x10ffff)] else []
  | low, (a, b) :: rest => if low < a then (low, a - 1) :: gaps (b + 1) rest else gaps (b + 1) rest

/-- All characters that are in one of two sets. -/
def union (s t : CharSet) : CharSet := normalize ⟨s.ranges ++ t.ranges⟩

/-- All characters that are not in a set. -/
def complement (s : CharSet) : CharSet := ⟨gaps 0 s.normalize.ranges⟩

/-- All characters that are in both sets. -/
def inter (s t : CharSet) : CharSet := (s.complement.union t.complement).complement

/-- All characters of the first set that are not in the second. -/
def diff (s t : CharSet) : CharSet := s.inter t.complement

/-- All characters that are in exactly one of two sets. -/
def symmDiff (s t : CharSet) : CharSet := (s.union t).diff (s.inter t)

/-- The characters of a set and, with each of them, the others of its class. -/
def closeUnder (classes : List (List Nat)) (s : CharSet) : CharSet :=
  let touched := classes.filter fun cls => cls.any s.containsCode
  normalize ⟨s.ranges ++ touched.flatten.map fun code => (code, code)⟩

end CharSet

end HostExpr
