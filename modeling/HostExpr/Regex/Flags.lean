import HostExpr.Regex.Node
import HostExpr.Text.Blank

/-!
# Reading patterns: flags and characters

* `Flags`: how a part of a pattern is to be read;
* `Scan`: a computation that reads a pattern;
* `skipIgnored`, `advance`: passing over blanks and comments, where the pattern is verbose;
* `readFlags`: the flags of a group.
-/

namespace HostExpr.Regex

/-- How a part of a pattern is read. -/
structure Flags where
  /-- Letters match in either case. -/
  ignoreCase : Bool := false
  /-- `^` and `$` match at lines. -/
  multiLine : Bool := false
  /-- `.` matches the ends of lines too. -/
  dotAll : Bool := false
  /-- `*` and the like are lazy, and `*?` and the like greedy. -/
  swapGreed : Bool := false
  /-- Classes hold characters beyond ASCII. -/
  unicode : Bool := true
  /-- A return is an end of a line too. -/
  crlf : Bool := false
  /-- Blanks and comments in the pattern do not count. -/
  verbose : Bool := false
  deriving DecidableEq, Repr

/-- A computation that reads a pattern; without result the pattern is not valid. -/
abbrev Scan := StateT (List Char) Option

/-- The pattern is not valid. -/
def invalid {α : Type} : Scan α :=
  fun _ => none

/-- A result that has to be there. -/
def orInvalid {α : Type} (result? : Option α) : Scan α :=
  fun cs => result?.map (·, cs)

/-- Fails unless a condition holds. -/
def require (condition : Bool) : Scan Unit :=
  if condition then pure () else invalid

/-! ### Characters -/

/-- The character that is read next. -/
def peek? : Scan (Option Char) :=
  return (← get).head?

/-- The character that is read next, which has to be there. -/
def current : Scan Char := do
  match (← get) with
  | [] => invalid
  | c :: _ => return c

/-- Reads a character. -/
def bump : Scan Unit :=
  modify List.tail

/-- The pattern after blanks and comments; in a comment, up to the end of its line. -/
def skipComments : Bool → List Char → List Char
  | _, [] => []
  | true, c :: cs => skipComments (c != '\n') cs
  | false, c :: cs =>
    if c = '#' then skipComments true cs
    else if Blank.isBlank c then skipComments false cs
    else c :: cs

/-- The pattern after what does not count. -/
def ignored (flags : Flags) (cs : List Char) : List Char :=
  if flags.verbose then skipComments false cs else cs

/-- Passes over what does not count. -/
def skipIgnored (flags : Flags) : Scan Unit :=
  modify (ignored flags)

/-- Reads a character and passes over what does not count. -/
def advance (flags : Flags) : Scan Unit := do
  bump
  skipIgnored flags

/-- Reads a word if it stands at the front. -/
def accept (word : String) : Scan Bool := do
  let cs ← get
  if word.toList.isPrefixOf cs then
    set (cs.drop word.length)
    return true
  else
    return false

/-! ### Flags of a group -/

/-- The flags after switching one, if there is a flag of this letter. -/
def Flags.switch? (flags : Flags) (on : Bool) : Char → Option Flags
  | 'i' => some { flags with ignoreCase := on }
  | 'm' => some { flags with multiLine := on }
  | 's' => some { flags with dotAll := on }
  | 'U' => some { flags with swapGreed := on }
  | 'u' => some { flags with unicode := on }
  | 'R' => some { flags with crlf := on }
  | 'x' => some { flags with verbose := on }
  | _ => none

/-- Reads letters of flags up to a colon or a closing parenthesis.  No letter may come twice, a
hyphen may come once, and a letter has to follow it.  The result tells whether nothing was read. -/
def readFlags (flags : Flags) : Scan (Flags × Bool) := fun cs =>
  let stop (c : Char) := c = ':' || c = ')'
  let letters := cs.takeWhile fun c => !stop c
  let rest := cs.dropWhile fun c => !stop c
  if rest = [] ∨ !letters.Nodup ∨ letters.getLast? = some '-' then none
  else
    let on := letters.takeWhile (· ≠ '-')
    let off := (letters.dropWhile (· ≠ '-')).tail
    let switchAll (value : Bool) (flags : Flags) (cs : List Char) : Option Flags :=
      cs.foldlM (fun flags c => flags.switch? value c) flags
    do
      let flags ← switchAll true flags on
      let flags ← switchAll false flags off
      some ((flags, letters.isEmpty), rest)

end HostExpr.Regex
