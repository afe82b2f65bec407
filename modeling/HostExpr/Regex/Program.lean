import HostExpr.Regex.Pattern
import HostExpr.Regex.Size

/-!
# Programs of regular expressions

A tree is turned into instructions that say where to go on, so that a text can be matched in one
pass over it.

* `Instr`: an instruction;
* `Node.emit`: adds the instructions of a tree, which go on at a given instruction when the tree is
  matched;
* `Node.lastGroup`: the highest number of a group in a tree;
* `Program.compile?`: the program of a pattern, unless it is too large.
-/

namespace HostExpr.Regex

/-- An instruction. -/
inductive Instr where
  /-- Reads a character of a set. -/
  | read (chars : CharSet) (next : Nat)
  /-- Goes on if something holds at the place. -/
  | look (look : Look) (next : Nat)
  /-- Keeps the place under a number. -/
  | save (slot : Nat) (next : Nat)
  /-- Goes on at several instructions, the preferred one first; at none of them, it fails. -/
  | split (nexts : List Nat)
  | accept

/-- A computation that adds instructions. -/
abbrev Emit := StateM (Array Instr)

/-- Adds an instruction and gives its number. -/
def emit (instr : Instr) : Emit Nat :=
  modifyGet fun program => (program.size, program.push instr)

/-- Adds a choice between going on with a body and going past it. -/
def emitChoice (greedy : Bool) (body past : Nat) : Emit Nat :=
  emit (.split (if greedy then [body, past] else [past, body]))

/-- Adds the instructions of several matches after one another. -/
def emitTimes (body : Nat → Emit Nat) : Nat → Nat → Emit Nat
  | 0, next => pure next
  | n + 1, next => do emitTimes body n (← body next)

/-- Adds the instructions of at most the given number of matches.  Each of them may be left out
together with those after it, and then the match goes on at `past`. -/
def emitAtMost (greedy : Bool) (body : Nat → Emit Nat) (past : Nat) : Nat → Nat → Emit Nat
  | 0, next => pure next
  | n + 1, next => do emitAtMost greedy body past n (← emitChoice greedy (← body next) past)

/-- Adds a choice between a body, after which the choice is made again, and going past it.  Gives
the start of the body and the choice. -/
def emitCycle (greedy : Bool) (body : Nat → Emit Nat) (past : Nat) : Emit (Nat × Nat) := do
  let choice ← emit (.split [])
  let start ← body choice
  modify (·.setIfInBounds choice (.split (if greedy then [start, past] else [past, start])))
  return (start, choice)

/-- Adds the instructions of a repetition.  One that may match nothing starts at the choice of its
cycle; but if the body can match the empty text it has a choice of its own before the cycle, or else
the way past it could be lost to the cycle. -/
def emitLoop (body : Nat → Emit Nat) (canBeEmpty : Bool) (min : Nat) (max? : Option Nat)
    (greedy : Bool) (next : Nat) : Emit Nat := do
  match min, max? with
  | 0, none =>
    let (start, choice) ← emitCycle greedy body next
    if canBeEmpty then emitChoice greedy start next else return choice
  | n + 1, none => emitTimes body n (← emitCycle greedy body next).1
  | n, some m => emitTimes body n (← emitAtMost greedy body next (m - n) next)

namespace Node

mutual

/-- Adds the instructions of a tree, which go on at `next`, and gives the one to start at. -/
def emit : Node → Nat → Emit Nat
  | empty, next => pure next
  | set s, next => Regex.emit (.read s next)
  | look l, next => Regex.emit (.look l next)
  | group index body, next => do
    let close ← Regex.emit (.save (2 * index + 1) next)
    let start ← body.emit close
    Regex.emit (.save (2 * index) start)
  | seq items, next => emitSeq items next
  | alt items, next => do Regex.emit (.split (← emitAlt items next))
  | loop body min max? greedy, next => emitLoop body.emit body.canBeEmpty min max? greedy next

/-- Adds the instructions of trees after one another. -/
def emitSeq : List Node → Nat → Emit Nat
  | [], next => pure next
  | item :: items, next => do item.emit (← emitSeq items next)

/-- Adds the instructions of alternatives, and gives where each of them starts. -/
def emitAlt : List Node → Nat → Emit (List Nat)
  | [], _ => pure []
  | item :: items, next => do
    let start ← item.emit next
    let starts ← emitAlt items next
    return start :: starts

end

/-! ### Groups -/

mutual

/-- The highest number of a group in a tree. -/
def lastGroup : Node → Nat
  | group index body => Nat.max index body.lastGroup
  | seq items | alt items => lastGroups items
  | loop body _ _ _ => body.lastGroup
  | _ => 0

/-- The highest number of a group in several trees. -/
def lastGroups : List Node → Nat
  | [] => 0
  | item :: items => Nat.max item.lastGroup (lastGroups items)

end

end Node

/-- The size that a pattern may have. -/
def maxSize : Nat := 10 * Nat.pow 2 20

/-- A pattern that can be matched: its instructions, where they start, how many groups a match has
(the whole match is the first one), and the groups with names. -/
structure Program where
  instrs : Array Instr
  start : Nat
  groups : Nat
  names : List (String × Nat)

/-- The program of a pattern, of which the whole match is the group 0; none if the text spells no
pattern or one that is too large. -/
def Program.compile? (source : String) : Option Program := do
  let pattern ← Pattern.read? source.toList
  let whole := Node.group 0 pattern.node
  if maxSize < whole.size then none
  else
    let groups := whole.lastGroup + 1
    let (start, instrs) := (whole.emit 0).run #[.accept]
    some { instrs, start, groups, names := pattern.names.filter (·.2 < groups) }

end HostExpr.Regex
