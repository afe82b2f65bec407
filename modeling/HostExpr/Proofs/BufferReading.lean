import HostExpr.Proofs.NestingLimit
import HostExpr.Proofs.TokenBuffer

/-!
# Reading from a buffer and from the tokens that are left

A reading from a buffer keeps all its tokens, moves a place among them and counts levels; a reading from
tokens drops what it has read.  `Reading.Follows` says that two of them come to the same: the same result
or the same error, with the remaining tokens of the buffer left on the other side.  It also says what a
reading does to the buffer (`Buffer.Onward`), whether it fails or not: the tokens and the level stay, and
the place only moves on, not past the end of the text.

* `Buffer.Valid`, `Buffer.Onward`: places up to the first end of the text;
* `Reading.Follows`, with one lemma for each way in which readings are composed;
* `Reading.Follows.nested`: a level is left again, also by an error;
* `Reading.backtrack_of_none`, `Reading.firstOf_of_none`: an alternative that does not apply leaves no
  trace.
-/

namespace HostExpr

open Stateful

/-! ### Tokens of a buffer -/

namespace Buffer

variable {b c d : Buffer}

/-- The place of the first token that is the end of the text. -/
def finish (b : Buffer) : Nat :=
  b.tokens.findIdx (·.token = .eof)

/-- The end of the text is among the tokens, and has not been passed. -/
structure Valid (b : Buffer) : Prop where
  ends : b.finish < b.tokens.length
  cursor_le : b.cursor ≤ b.finish

/-- The second buffer is the first one after some of its tokens have been read. -/
structure Onward (b c : Buffer) : Prop where
  tokens : c.tokens = b.tokens
  depth : c.depth = b.depth
  cursor_le : b.cursor ≤ c.cursor
  valid : c.Valid

theorem Valid.refl (h : b.Valid) : b.Onward b :=
  ⟨rfl, rfl, Nat.le_refl _, h⟩

theorem Onward.trans (h : b.Onward c) (h' : c.Onward d) : b.Onward d :=
  ⟨h'.tokens.trans h.tokens, h'.depth.trans h.depth, Nat.le_trans h.cursor_le h'.cursor_le, h'.valid⟩

theorem Onward.eq_of_rest (h : b.Onward c) (h' : b.Onward d) (hrest : c.rest = d.rest) : c = d := by
  obtain ⟨tokens, i, depth⟩ := c
  obtain ⟨tokens', j, depth'⟩ := d
  obtain rfl : tokens = tokens' := h.tokens.trans h'.tokens.symm
  obtain rfl : depth = depth' := h.depth.trans h'.depth.symm
  have hi : i < tokens.length := Nat.lt_of_le_of_lt h.valid.cursor_le h.valid.ends
  have hj : j < tokens.length := Nat.lt_of_le_of_lt h'.valid.cursor_le h'.valid.ends
  have hlength : (tokens.drop i).length = (tokens.drop j).length := congrArg List.length hrest
  rw [List.length_drop, List.length_drop] at hlength
  obtain rfl : i = j := by omega
  rfl

theorem Valid.cursor_lt (h : b.Valid) : b.cursor < b.tokens.length :=
  Nat.lt_of_le_of_lt h.cursor_le h.ends

theorem Valid.getElem?_cursor (h : b.Valid) : b.tokens[b.cursor]? = some b.current := by
  have hlt := h.cursor_lt
  have hmin : min b.cursor (b.tokens.length - 1) = b.cursor := by omega
  unfold current
  rw [hmin, List.getD_eq_getElem?_getD, List.getElem?_eq_getElem hlt]
  rfl

theorem Valid.rest_eq (h : b.Valid) : b.rest = b.current :: b.tokens.drop (b.cursor + 1) := by
  obtain ⟨hlt, hcurrent⟩ := List.getElem?_eq_some_iff.1 h.getElem?_cursor
  rw [← hcurrent]
  exact List.drop_eq_getElem_cons hlt

theorem Valid.current_eq (h : b.Valid) : b.current = Parse.first b.rest := by
  rw [h.rest_eq]
  rfl

theorem Valid.rest_next (h : b.Valid) : b.next.rest = Parse.afterFirst b.rest := by
  have hafter : Parse.afterFirst b.rest =
      if b.current.token = .eof then b.rest else b.tokens.drop (b.cursor + 1) := by
    rw [h.rest_eq]
    rfl
  unfold next
  rw [hafter]
  split <;> rfl

/-- The end of the text is not passed. -/
theorem Valid.next (h : b.Valid) : b.Onward b.next := by
  unfold Buffer.next
  split
  · exact h.refl
  · next hne =>
    refine ⟨rfl, rfl, Nat.le_succ _, h.ends, Nat.lt_of_le_of_ne h.cursor_le fun heq => ?_⟩
    have heof := List.findIdx_getElem (p := fun l : Lexeme => decide (l.token = .eof)) (w := h.ends)
    have hcurrent := h.getElem?_cursor
    rw [show b.cursor = b.finish from heq] at hcurrent
    obtain ⟨_, hcurrent⟩ := List.getElem?_eq_some_iff.1 hcurrent
    rw [← hcurrent] at hne
    exact hne (of_decide_eq_true heof)

end Buffer

/-! ### Readings that find nothing -/

namespace Parse

variable {α β : Type} {item : Parse (Option α)}

/-- A reading that finds nothing has read nothing. -/
def Untouched (item : Parse (Option α)) : Prop :=
  ∀ ts us, item ts = .ok none us → us = ts

/-- A reading that finds something unless it fails. -/
def FindsSome (item : Parse (Option α)) : Prop :=
  ∀ ts us, item ts ≠ .ok none us

theorem FindsSome.bind {p : Parse β} {f : β → Parse (Option α)} (h : ∀ x, FindsSome (f x)) :
    FindsSome (p >>= f) := by
  intro ts us hnone
  obtain ⟨x, vs, -, hx⟩ := bind_eq_ok.1 hnone
  exact h x vs us hx

theorem FindsSome.pure (x : α) : FindsSome (pure (some x)) := by
  intro ts us hnone
  exact absurd (pure_eq_ok.1 hnone).1 (by simp)

theorem FindsSome.map (p : Parse α) : FindsSome (some <$> p) := by
  intro ts us hnone
  obtain ⟨x, -, hx⟩ := map_eq_ok.1 hnone
  exact absurd hx (by simp)

theorem FindsSome.untouched (h : FindsSome item) : Untouched item :=
  fun ts us hnone => absurd hnone (h ts us)

theorem Untouched.nothing : Untouched (pure none : Parse (Option α)) :=
  fun _ _ hnone => (pure_eq_ok.1 hnone).2.symm

theorem Untouched.peeked {f : Lexeme → Parse (Option α)} (h : ∀ l, Untouched (f l)) :
    Untouched (peek >>= f) := by
  intro ts us hnone
  rw [bind_of_ok (peek_apply ts)] at hnone
  exact h _ ts us hnone

end Parse

namespace Reading

variable {α β ω : Type}

/-! ### Readings that follow each other -/

/-- A reading from a buffer comes to the same as one from the tokens that are left. -/
inductive Outcome (b : Buffer) :
    EStateM.Result ParseError Buffer α → EStateM.Result ParseError (List Lexeme) α → Prop
  | ok {x : α} {c : Buffer} : b.Onward c → Outcome b (.ok x c) (.ok x c.rest)
  | error {e : ParseError} {c : Buffer} : b.Onward c → Outcome b (.error e c) (.error e c.rest)

/-- A reading from buffers of the given depth comes to the same as one from tokens. -/
def Follows (depth : Nat) (p : Reading α) (q : Parse α) : Prop :=
  ∀ b : Buffer, b.Valid → b.depth = depth → Outcome b (p b) (q b.rest)

variable {b c : Buffer} {depth : Nat} {p : Reading α} {q : Parse α}

theorem Outcome.of_onward {r : EStateM.Result ParseError Buffer α}
    {s : EStateM.Result ParseError (List Lexeme) α} (h : b.Onward c) (hout : Outcome c r s) :
    Outcome b r s := by
  cases hout with
  | ok h' => exact .ok (h.trans h')
  | error h' => exact .error (h.trans h')

namespace Follows

theorem pure (x : α) : Follows depth (pure x) (pure x) :=
  fun _ hb _ => .ok hb.refl

theorem bind {f : α → Reading β} {g : α → Parse β} (h : Follows depth p q)
    (hf : ∀ x, Follows depth (f x) (g x)) : Follows depth (p >>= f) (q >>= g) := by
  intro b hb hdepth
  have hout := h b hb hdepth
  generalize hr : p b = r at hout
  generalize hs : q b.rest = s at hout
  cases hout with
  | @ok x c honward =>
    rw [bind_of_ok hr, bind_of_ok hs]
    exact (hf x c honward.valid (honward.depth.trans hdepth)).of_onward honward
  | error honward =>
    rw [bind_of_error hr, bind_of_error hs]
    exact .error honward

theorem returning (h : Follows depth p q) (f : α → β) :
    Follows depth (do return f (← p)) (do return f (← q)) :=
  h.bind fun x => .pure (f x)

theorem map (h : Follows depth p q) (f : α → β) : Follows depth (f <$> p) (f <$> q) := by
  have hp : f <$> p = (do return f (← p)) := map_eq_pure_bind f p
  have hq : f <$> q = (do return f (← q)) := map_eq_pure_bind f q
  rw [hp, hq]
  exact h.returning f

/-! ### Single tokens -/

theorem peek : Follows depth Reading.peek Parse.peek := by
  intro b hb _
  have hout : Outcome b (.ok b.current b) (.ok (Parse.first b.rest) b.rest) := by
    rw [hb.current_eq]
    exact .ok hb.refl
  exact hout

theorem advance : Follows depth Reading.advance Parse.advance := by
  intro b hb _
  have hout : Outcome b (.ok () b.next) (.ok () (Parse.afterFirst b.rest)) := by
    rw [← hb.rest_next]
    exact .ok hb.next
  exact hout

theorem throw (e : ParseError) : Follows depth (throw e : Reading α) (throw e) :=
  fun _ hb _ => .error hb.refl

theorem unexpected (expected : Expected) :
    Follows depth (Reading.unexpected expected : Reading α) (Parse.unexpected expected) :=
  peek.bind fun _ => .throw _

theorem tooDeep : Follows depth (Reading.tooDeep : Reading α) Parse.tooDeep :=
  peek.bind fun _ => .throw _

theorem ite {p' : Reading α} {q' : Parse α} {P : Prop} [Decidable P] (h : Follows depth p q)
    (h' : Follows depth p' q') : Follows depth (if P then p else p') (if P then q else q') := by
  split
  · exact h
  · exact h'

theorem accept (token : Token) : Follows depth (Reading.accept token) (Parse.accept token) :=
  peek.bind fun _ => (advance.bind fun _ => .pure true).ite (.pure false)

theorem ifAccept (token : Token) {p' : Reading α} {q' : Parse α} (h : Follows depth p q)
    (h' : Follows depth p' q') :
    Follows depth (do if ← Reading.accept token then p else p')
      (do if ← Parse.accept token then q else q') :=
  (accept token).bind fun _ => h.ite h'

theorem close (construct : Bracketed) :
    Follows depth (Reading.close construct) (Parse.close construct) := by
  refine (accept construct.closing).bind fun b => ?_
  cases b with
  | true => exact .pure ()
  | false => exact peek.bind fun _ => .throw _

theorem separator (construct : Separated) :
    Follows depth (Reading.separator construct) (Parse.separator construct) := by
  refine (accept .colon).bind fun b => ?_
  cases b with
  | true => exact .pure ()
  | false => exact peek.bind fun _ => .throw _

theorem closed (c : Bracketed) (h : Follows depth p q) (f : α → β) :
    Follows depth (do let x ← p; Reading.close c; return f x)
      (do let x ← q; Parse.close c; return f x) :=
  h.bind fun x => (Follows.close c).bind fun _ => .pure (f x)

end Follows

/-! ### Levels -/

/-- A level is left again, whether the reading in it fails or not. -/
theorem Follows.nested (hdepth : depth < maxNesting) (h : Follows (depth + 1) p q) :
    Follows depth (nested p) q := by
  intro b hb hb'
  have hout := h { b with depth := b.depth + 1 } ⟨hb.ends, hb.cursor_le⟩ (congrArg (· + 1) hb')
  have hleave : ∀ {c : Buffer}, Buffer.Onward { b with depth := b.depth + 1 } c →
      b.Onward { c with depth := c.depth - 1 } := by
    intro c hc
    refine ⟨hc.tokens, ?_, hc.cursor_le, hc.valid.ends, hc.valid.cursor_le⟩
    show c.depth - 1 = b.depth
    rw [hc.depth]
    rfl
  have hrest : Buffer.rest { b with depth := b.depth + 1 } = b.rest := rfl
  unfold Reading.nested
  rw [if_neg (by omega)]
  rw [hrest] at hout
  generalize hr : p { b with depth := b.depth + 1 } = r at hout
  generalize hs : q b.rest = s at hout
  cases hout with
  | ok hc => exact .ok (hleave hc)
  | error hc => exact .error (hleave hc)

/-! ### Alternatives -/

section

variable {attempt : Reading (Option α)} {x : α} {e : ParseError}

theorem backtrack_of_some (h : attempt b = .ok (some x) c) : backtrack attempt b = .ok (some x) c :=
  (bind_of_ok (p := get) (s := b) rfl).trans (bind_of_ok h)

theorem backtrack_of_error (h : attempt b = .error e c) : backtrack attempt b = .error e c :=
  (bind_of_ok (p := get) (s := b) rfl).trans (bind_of_error h)

/-- An alternative that does not apply is undone. -/
theorem backtrack_of_none (h : attempt b = .ok none c) (hc : b.Onward c) :
    backtrack attempt b = .ok none b := by
  have hback : backtrack attempt b = .ok none { c with cursor := b.cursor } :=
    (bind_of_ok (p := get) (s := b) rfl).trans (bind_of_ok h)
  have hsame : { c with cursor := b.cursor } = b := by
    obtain ⟨tokens, cursor, depth⟩ := b
    simp only [hc.tokens, hc.depth]
  rw [hback, hsame]

theorem Follows.backtrack {q : Parse (Option α)} (h : Follows depth attempt q)
    (hq : Parse.Untouched q) : Follows depth (backtrack attempt) q := by
  intro b hb hdepth
  have hout := h b hb hdepth
  generalize hr : attempt b = r at hout
  generalize hs : q b.rest = s at hout
  cases hout with
  | @ok o c hc =>
    cases o with
    | some x =>
      rw [backtrack_of_some hr]
      exact .ok hc
    | none =>
      rw [backtrack_of_none hr hc, hq _ _ hs]
      exact .ok hb.refl
  | error hc =>
    rw [backtrack_of_error hr]
    exact .error hc

variable {attempts : List (Reading (Option α))}

theorem firstOf_of_none (h : attempt b = .ok none c) (hc : b.Onward c) :
    firstOf (attempt :: attempts) b = firstOf attempts b :=
  bind_of_ok (backtrack_of_none h hc)

theorem firstOf_of_some (h : attempt b = .ok (some x) c) :
    firstOf (attempt :: attempts) b = .ok (some x) c :=
  bind_of_ok (backtrack_of_some h)

theorem firstOf_of_error (h : attempt b = .error e c) :
    firstOf (attempt :: attempts) b = .error e c :=
  bind_of_error (backtrack_of_error h)

end

/-! ### Repetition -/

section

variable {item : Reading (Option α)} {item' : Parse (Option α)}

theorem Follows.upTo (h : Follows depth item item') (n : Nat) :
    Follows depth (upTo n item) (Parse.upTo n item') := by
  induction n with
  | zero => exact .pure []
  | succ n ih =>
    refine h.bind fun o => ?_
    cases o with
    | none => exact .pure []
    | some x => exact ih.returning (x :: ·)

theorem Follows.many (h : Follows depth item item') : Follows depth (many item) (Parse.many item') :=
  fun b hb hdepth => h.upTo b.rest.length b hb hdepth

theorem Follows.listOf (h : Follows depth item item') (hitem : Parse.Untouched item') :
    Follows depth (listOf item) (Parse.listOf item') := by
  have hback := h.backtrack hitem
  refine hback.bind fun o => ?_
  cases o with
  | none => exact .pure []
  | some x => exact ((hback.ifAccept .comma (.pure none)).many).returning (x :: ·)

theorem Follows.chain (op? : Token → Option ω) (h : Follows depth p q) :
    Follows depth (chain op? p) (Parse.chain op? q) := by
  refine h.bind fun x => (Follows.many ?_).returning (x, ·)
  refine Follows.peek.bind fun l => ?_
  cases op? l.token with
  | none => exact .pure none
  | some op => exact Follows.advance.bind fun _ => h.returning fun y => some (op, y)

end

end Reading

end HostExpr
