import HostExpr.Regex.Node

/-!
# Sizes of regular expressions

Repetitions with counts can make a short pattern as large as one likes, so a pattern has a size, in
bytes of an automaton that reads the UTF-8 encoding of a text: 32 for each step, 4 for each way to
go on and 8 for each range of bytes in a step.

* `paths`: the sequences of digits, which a byte each encodes, that a range of characters
  has;
* `setSize`: the size of a set;
* `Node.size`: the size of a tree.
-/

namespace HostExpr.Regex

/-! ### Sets -/

/-- A range of code points with encodings of the same length: one byte and `more` further ones. -/
structure Encoding where
  first : Nat
  last : Nat
  more : Nat

/-- The ranges of code points of characters, by the lengths of their encodings. -/
def encodings : List Encoding :=
  [⟨0, 0x7f, 0⟩, ⟨0x80, 0x7ff, 1⟩, ⟨0x800, 0xd7ff, 2⟩, ⟨0xe000, 0xffff, 2⟩, ⟨0x10000, 0x10ffff, 3⟩]

/-- The part of a range that has a given encoding. -/
def Encoding.clip? (e : Encoding) (range : Nat × Nat) : Option (Nat × Nat) :=
  let (first, last) := (Nat.max e.first range.1, Nat.min e.last range.2)
  if first ≤ last then some (first, last) else none

/-- The numbers from `a` to `b` as sequences of ranges of digits to the base 64, of which `more`
follow the first digit. -/
def paths : Nat → Nat → Nat → List (List (Nat × Nat))
  | 0, a, b => [[(a, b)]]
  | more + 1, a, b =>
    let block := Nat.pow 64 (more + 1)
    let (p, q) := (a / block, b / block)
    if p = q then (paths more (a % block) (b % block)).map ((p, p) :: ·)
    else
      let low :=
        if a % block = 0 then [] else (paths more (a % block) (block - 1)).map ((p, p) :: ·)
      let high := if b % block = block - 1 then [] else (paths more 0 (b % block)).map ((q, q) :: ·)
      let p := if low.isEmpty then p else p + 1
      let q := if high.isEmpty then q else q - 1
      let middle := if p ≤ q then (paths more 0 (block - 1)).map ((p, q) :: ·) else []
      low ++ middle ++ high

/-- The steps of a path that are not already there when it follows another one. -/
def freshSteps : List (Nat × Nat) → List (Nat × Nat) → Nat
  | a :: before, b :: path => if a = b then freshSteps before path else path.length + 1
  | _, path => path.length

/-- The size of paths, given the one before them. -/
def sizeOfPaths (before : List (Nat × Nat)) : List (List (Nat × Nat)) → Nat
  | [] => 0
  | path :: rest => 32 * freshSteps before path + 4 + sizeOfPaths path rest

/-- The size of ranges of characters of which not all are in ASCII. -/
def sizeOfRanges (ranges : List (Nat × Nat)) : Nat :=
  let sizes := encodings.map fun e =>
    sizeOfPaths [] ((ranges.filterMap e.clip?).flatMap fun (a, b) => paths e.more a b)
  64 + sizes.foldr (· + ·) 0

/-- The size of a set: for one character a step for each byte of it, for characters of ASCII one
step, and otherwise the paths of all encodings. -/
def setSize (s : CharSet) : Nat :=
  let ranges := s.normalize.ranges
  match s.onlyChar? with
  | some c => 32 * c.utf8Size
  | none => if ranges.all (·.2 < 0x80) then 64 + 8 * ranges.length else sizeOfRanges ranges

/-! ### Trees -/

namespace Node

mutual

/-- The size of a tree.  A repetition has its body once for each match that it counts. -/
def size : Node → Nat
  | empty | look _ => 32
  | set s => setSize s
  | group _ body => 64 + body.size
  | seq items => sizeOfList items
  | alt items => 64 + 4 * items.length + sizeOfList items
  | loop body min none _ => Nat.max 1 min * body.size + 40
  | loop body min (some max) _ => max * body.size + 40 * (max - min)

/-- The size of several trees. -/
def sizeOfList : List Node → Nat
  | [] => 0
  | item :: items => item.size + sizeOfList items

end

end Node

end HostExpr.Regex
