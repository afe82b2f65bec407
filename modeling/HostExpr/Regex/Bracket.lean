import HostExpr.Regex.Escape

/-!
# Bracketed classes in patterns

A class in brackets holds characters, ranges, named classes and further classes in brackets, and
may combine what stands on both sides of `&&`, `--` and `~~`, from left to right.

* `SetOp`: the operators on classes;
* `Level`: a class whose closing bracket is still to come;
* `readBracket`: reads a class, from its opening bracket on, with its depth.
-/

namespace HostExpr.Regex

/-- An operator on classes. -/
inductive SetOp where
  | inter
  | diff
  | symmDiff
  deriving DecidableEq, Repr

/-- The class that an operator gives. -/
def SetOp.apply : SetOp → CharSet → CharSet → CharSet
  | inter, s, t => s.inter t
  | diff, s, t => s.diff t
  | symmDiff, s, t => s.symmDiff t

/-! ### Open classes -/

/-- A class that is being read. -/
structure Level where
  negated : Bool
  /-- What stands after the last operator so far. -/
  chars : CharSet := .empty
  /-- How many items that is. -/
  count : Nat := 0
  /-- The depth of the deepest of them. -/
  depth : Nat := 0
  /-- The last operator, what stands before it, and the depth of that. -/
  pending? : Option (SetOp × CharSet × Nat) := none

namespace Level

/-- Adds an item. -/
def add (level : Level) (s : CharSet) (depth : Nat) : Level :=
  { level with
    chars := ⟨level.chars.ranges ++ s.ranges⟩
    count := level.count + 1
    depth := Nat.max level.depth depth }

/-- What has been read, the last operator applied, and its depth.  Where case is ignored, an
operator works on sets that do not tell cases apart. -/
def operand (flags : Flags) (level : Level) : CharSet × Nat :=
  let depth := if level.count < 2 then level.depth else level.depth + 1
  match level.pending? with
  | none => (level.chars, depth)
  | some (op, s, depth') =>
    (op.apply (flags.close s) (flags.close level.chars), Nat.max depth depth' + 1)

/-- Goes on after an operator. -/
def operator (flags : Flags) (op : SetOp) (level : Level) : Level :=
  let (s, depth) := level.operand flags
  { negated := level.negated, pending? := some (op, s, depth) }

/-- The finished class and its depth. -/
def finish? (flags : Flags) (level : Level) : Option (CharSet × Nat) :=
  let (s, depth) := level.operand flags
  (flags.class? level.negated s).map (·, depth + 1)

end Level

/-! ### Items -/

/-- Hyphens at the start of a class. -/
def leadingHyphens (flags : Flags) : Nat → Level → Scan Level
  | 0, level => pure level
  | n + 1, level => do
    if (← current) = '-' then
      advance flags
      leadingHyphens flags n (level.add (.single '-') 0)
    else
      return level

/-- Opens a class, from its bracket on.  Hyphens at its start stand for themselves, and so does a
closing bracket as the first item. -/
def openLevel (flags : Flags) : Scan Level := do
  advance flags
  let negated := (← current) = '^'
  if negated then advance flags
  let level ← leadingHyphens flags (← get).length { negated }
  let c ← current
  if level.count = 0 && c = ']' then
    advance flags
    discard current
    return level.add (.single ']') 0
  else
    return level

/-- A class of ASCII such as `[:alpha:]`, if one stands here. -/
def asciiItem? (flags : Flags) : Scan (Option CharSet) := fun cs =>
  match cs with
  | '[' :: ':' :: after =>
    let (negated, after) := match after with
      | '^' :: after => (true, after)
      | after => (false, after)
    let name := after.takeWhile (· ≠ ':')
    match after.dropWhile (· ≠ ':'), asciiSet? (String.ofList name) with
    | ':' :: ']' :: rest, some s => (flags.class? negated s).map fun s => (some s, rest)
    | _, _ => some (none, cs)
  | cs => some (none, cs)

/-- One character or escape of a class. -/
def readPrimitive (flags : Flags) : Scan Escape := do
  let c ← current
  if c = '\\' then readEscape flags
  else
    bump
    return .char c false

/-- Whether a character may stand in a class: without Unicode only one of ASCII. -/
def allowedIn (flags : Flags) (c : Char) : Bool :=
  flags.unicode || c.toNat < 0x80

/-- An item of a class: a character, a range or a named class.  A hyphen before the closing bracket
or before another hyphen makes no range. -/
def readItem (flags : Flags) : Scan CharSet := do
  let first ← readPrimitive flags
  skipIgnored flags
  let c ← current
  let next := (ignored flags (← get).tail).head?
  if c != '-' || next = some ']' || next = some '-' then
    match first with
    | .char c _ =>
      require (allowedIn flags c)
      return .single c
    | .set s => return s
    | .look _ => invalid
  else
    advance flags
    discard current
    match first, ← readPrimitive flags with
    | .char c _, .char d _ =>
      require (c ≤ d && allowedIn flags d)
      return .interval c d
    | _, _ => invalid

/-! ### Whole classes -/

/-- One step inside the innermost of the open classes; the result is there when the outermost one
is closed. -/
def stepLevel (flags : Flags) : List Level → Scan (Sum (List Level) (CharSet × Nat))
  | [] => invalid
  | level :: outer => do
    skipIgnored flags
    let c ← current
    if c = '[' then
      match ← asciiItem? flags with
      | some s => return .inl (level.add s 0 :: outer)
      | none => return .inl ((← openLevel flags) :: level :: outer)
    else if c = ']' then
      bump
      let (s, depth) ← orInvalid (level.finish? flags)
      match outer with
      | [] => return .inr (s, depth)
      | parent :: outer => return .inl (parent.add s depth :: outer)
    else if ← accept "&&" then return .inl (level.operator flags .inter :: outer)
    else if ← accept "--" then return .inl (level.operator flags .diff :: outer)
    else if ← accept "~~" then return .inl (level.operator flags .symmDiff :: outer)
    else return .inl (level.add (← readItem flags) 0 :: outer)

/-- Steps until the outermost class is closed, at most the given number. -/
def readLevels (flags : Flags) : Nat → List Level → Scan (CharSet × Nat)
  | 0, _ => invalid
  | n + 1, levels => do
    match ← stepLevel flags levels with
    | .inr result => return result
    | .inl levels => readLevels flags n levels

/-- Reads a class, from its opening bracket on, with its depth.  Every step reads a character. -/
def readBracket (flags : Flags) : Scan (CharSet × Nat) := do
  let level ← openLevel flags
  readLevels flags (← get).length.succ [level]

end HostExpr.Regex
