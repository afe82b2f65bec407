import HostExpr.Regex.Program

/-!
# Matching texts

All ways to match are followed at once, in the order of preference, one character after another.  A
way that comes to an instruction which a preferred way has come to before, at the same place, is
given up.  The first match is the one that starts first, and of those the preferred one.

* `Thread`: a way to match that waits for a character, with the places it has kept;
* `Program.explore`: follows a way up to where it waits;
* `Program.search`: the first match from a place on;
* `Program.allMatches`: all matches that do not overlap, one after another.
-/

namespace HostExpr.Regex

/-- The places that a way to match has kept, by their numbers. -/
abbrev Slots := Array (Option Nat)

/-- A way to match that waits for a character or has come to its end. -/
structure Thread where
  instr : Nat
  slots : Slots

/-- The ways to match at a place, the preferred one first, and the instructions that were come
to. -/
structure Threads where
  seen : Array Bool
  list : Array Thread

namespace Program

/-- No ways to match. -/
def noThreads (p : Program) : Threads :=
  ⟨Array.replicate p.instrs.size false, #[]⟩

/-- Follows a way to match from an instruction, without reading a character; the bound is the
number of instructions that it may still come to. -/
def explore (p : Program) (place : Place) : Nat → Nat → Slots → Threads → Threads
  | 0, _, _, threads => threads
  | bound + 1, i, slots, threads =>
    if threads.seen.getD i true then threads
    else
      let threads := { threads with seen := threads.seen.setIfInBounds i true }
      match p.instrs[i]? with
      | none => threads
      | some Instr.accept | some (Instr.read _ _) =>
        { threads with list := threads.list.push ⟨i, slots⟩ }
      | some (Instr.look l next) =>
        if l.holds place then explore p place bound next slots threads else threads
      | some (Instr.save slot next) =>
        explore p place bound next (slots.setIfInBounds slot (some place.offset)) threads
      | some (Instr.split nexts) =>
        nexts.foldl (fun threads next => explore p place bound next slots threads) threads

/-- Follows a way to match from an instruction. -/
def follow (p : Program) (place : Place) (i : Nat) (slots : Slots) (threads : Threads) : Threads :=
  explore p place (p.instrs.size + 1) i slots threads

/-- Starts a match at a place, after the ways that are followed already. -/
def enter (p : Program) (place : Place) (threads : Threads) : Threads :=
  follow p place p.start (Array.replicate (2 * p.groups) none) threads

/-- The ways that come to their end before any preferred way does: the places that the first of
them has kept, and the ways preferred to it. -/
def cut (p : Program) : List Thread → Option Slots × List Thread
  | [] => (none, [])
  | thread :: threads =>
    match p.instrs[thread.instr]? with
    | some Instr.accept => (some thread.slots, [])
    | _ =>
      let (found, kept) := p.cut threads
      (found, thread :: kept)

/-- The ways to match after reading a character, which leads to a place. -/
def read (p : Program) (c : Char) (place : Place) (threads : List Thread) : Threads :=
  threads.foldl
    (fun after thread =>
      match p.instrs[thread.instr]? with
      | some (Instr.read s next) =>
        if s.contains c then p.follow place next thread.slots after else after
      | _ => after)
    p.noThreads

/-- The first match of a text whose characters from the place on are given.  `threads` are the ways
that were begun before and `best?` is what the best of those that are finished has kept. -/
def searchFrom (p : Program) (offset : Nat) (before? : Option Char) (threads : Threads)
    (best? : Option Slots) : List Char → Option Slots
  | [] =>
    let place : Place := ⟨offset, before?, none⟩
    let threads := if best?.isNone then p.enter place threads else threads
    (p.cut threads.list.toList).1.or best?
  | c :: cs =>
    let place : Place := ⟨offset, before?, some c⟩
    let threads := if best?.isNone then p.enter place threads else threads
    let (found?, threads) := p.cut threads.list.toList
    let best? := found?.or best?
    if threads.isEmpty && best?.isSome then best?
    else
      searchFrom p (offset + 1) (some c) (p.read c ⟨offset + 1, some c, cs.head?⟩ threads) best? cs

/-! ### Matches -/

/-- What a match has kept: for each group, where it starts and ends, if it took part. -/
structure Match where
  spans : List (Option (Nat × Nat))

/-- The match that slots describe. -/
def matchOf (p : Program) (slots : Slots) : Match :=
  ⟨(List.range p.groups).map fun g => do
    let start ← slots.getD (2 * g) none
    let stop ← slots.getD (2 * g + 1) none
    some (start, stop)⟩

/-- The span of the whole match. -/
def Match.span (m : Match) : Nat × Nat :=
  (m.spans.headD none).getD (0, 0)

/-- The first match from a place on. -/
def search (p : Program) (offset : Nat) (before? : Option Char) (cs : List Char) : Option Match :=
  (p.searchFrom offset before? p.noThreads none cs).map p.matchOf

/-- The place some characters further on, with what stands around it. -/
def skip : Nat → Nat → Option Char → List Char → Nat × Option Char × List Char
  | 0, offset, before?, cs => (offset, before?, cs)
  | _ + 1, offset, before?, [] => (offset, before?, [])
  | n + 1, offset, _, c :: cs => skip n (offset + 1) (some c) cs

/-- All matches from a place on, at most the given number.  An empty match directly after the match
before it does not count; the search goes on one character further then. -/
def matchesFrom (p : Program) :
    Nat → Option Nat → Nat → Option Char → List Char → List Match
  | 0, _, _, _, _ => []
  | n + 1, last?, offset, before?, cs =>
    let first? := p.search offset before? cs
    let found? :=
      match first? with
      | none => none
      | some m =>
        if m.span.1 = m.span.2 ∧ last? = some m.span.2 then
          match cs with
          | [] => none
          | c :: cs => p.search (offset + 1) (some c) cs
        else some m
    match found? with
    | none => []
    | some m =>
      let stop := m.span.2
      let (offset, before?, cs) := skip (stop - offset) offset before? cs
      m :: matchesFrom p n (some stop) offset before? cs

/-- All matches in a text that do not overlap.  Each one ends after the one before it, so there are
not more of them than places. -/
def allMatches (p : Program) (cs : List Char) : List Match :=
  p.matchesFrom (cs.length + 1) none 0 none cs

/-- The first match in a text. -/
def firstMatch? (p : Program) (cs : List Char) : Option Match :=
  p.search 0 none cs

end Program

end HostExpr.Regex
