import HostExpr.Proofs.Completeness

/-!
# What has been read can be completed

Two readings, of which the first may fail.  Wherever it fails, the second one finds something if other
tokens stand in the place of the one that the error is about; and wherever it does not fail, the second
one finds the same.

* `ParseError.Blames`: an error is about a token;
* `Parse.Completable`: the result of the first reading, and what can be completed to a result of the
  second one;
* `Parse.Completes`: all results of the first reading are of this kind;
* `Parse.Completes.bind`, `Parse.Completes.many`, `Parse.Completes.listOf`: readings one after another;
* `Parse.Completes.closed`, `Parse.Completes.chainTree`: what stands before a bracket, and chains.

A reading looks at the token after those that it reads.  So it does not find the same before all tokens,
but only before the same token and before those that end whatever stands before them.
-/

namespace HostExpr

/-- An error is about a token: it names the token, or has the position of a `!`. -/
inductive ParseError.Blames : ParseError → Lexeme → Prop
  | unexpected {expected : Expected} {l : Lexeme} : Blames (.unexpected expected l) l
  | missingClosing {construct : Bracketed} {l : Lexeme} : Blames (.missingClosing construct l) l
  | missingSeparator {construct : Separated} {l : Lexeme} : Blames (.missingSeparator construct l) l
  | detachedNot {l : Lexeme} : l.token = .bang → Blames (.detachedNot l.position) l

namespace Parse

open Stateful

variable {α β ω : Type}

/-! ### Tokens that follow -/

/-- The end of the text is among the tokens. -/
def Ended (ts : List Lexeme) : Prop :=
  ∃ l ∈ ts, l.token = .eof

theorem Ended.exists_cons {ts : List Lexeme} (h : Ended ts) : ∃ l us, ts = l :: us := by
  obtain ⟨l, hl, -⟩ := h
  exact List.exists_cons_of_ne_nil (List.ne_nil_of_mem hl)

/-- The end of the text is left. -/
theorem Reads.ended {ts used rest : List Lexeme} (h : Reads ts used rest) (hts : Ended ts) :
    Ended rest := by
  obtain ⟨rfl, hused⟩ := h
  obtain ⟨l, hl, heof⟩ := hts
  rcases List.mem_append.1 hl with hl | hl
  · exact absurd heof (hused l hl)
  · exact ⟨l, hl, heof⟩

/-- No phrase goes on with the token. -/
def Stops (t : Token) : Prop :=
  t.goesOn? = none

/-- The token is a closing bracket. -/
def Closes (t : Token) : Prop :=
  ∃ c : Bracketed, c.closing = t

theorem Closes.stops {t : Token} (h : Closes t) : Stops t := by
  obtain ⟨c, rfl⟩ := h
  cases c <;> rfl

/-- Tokens that go on with the same token as others, or with one that ends what stands before it. -/
def GoesOnLike (S : Token → Prop) (rest rest' : List Lexeme) : Prop :=
  (first rest').token = (first rest).token ∨ S (first rest').token

/-- What has been read goes on with itself. -/
theorem GoesOnLike.append {S : Token → Prop} {ts used rest rest' : List Lexeme}
    (hused : Reads ts used rest) (h : used = [] → GoesOnLike S rest rest') :
    GoesOnLike S ts (used ++ rest') := by
  obtain ⟨rfl, -⟩ := hused
  cases used with
  | nil => exact h rfl
  | cons l used => exact .inl rfl

/-- No operator follows where tokens go on like others that no operator follows. -/
theorem Operators.none_of_goesOnLike {r : Rank} {op? : Token → Option ω} (hop : Operators r op?)
    {rest rest' : List Lexeme} (hnone : op? (first rest).token = none)
    (h : GoesOnLike Stops rest rest') : op? (first rest').token = none := by
  rcases h with hsame | hstops
  · rw [hsame]
    exact hnone
  · exact hop.eq_none (Rank.endsBefore_of_none hstops)

/-! ### Results that can be completed -/

/-- A reading of `ts` has found something, and so does `found` in what has been read, before all tokens
that go on in the same way or with `S`.  Or it has failed at a token, and `found` finds something if
other tokens stand there, before all tokens that go on with `S`; the first of the other tokens stands
at the same place, and if nothing has been read before it, it has the property `E`. -/
inductive Completable (S E : Token → Prop) (uses : α → Prop)
    (found : List Lexeme → α → List Lexeme → Prop) (ts : List Lexeme) :
    EStateM.Result ParseError (List Lexeme) α → Prop
  | ok {x : α} {used rest : List Lexeme} : Reads ts used rest → (uses x → used ≠ []) →
      (∀ rest', GoesOnLike S rest rest' → found (used ++ rest') x rest') →
      Completable S E uses found ts (.ok x rest)
  | error {e : ParseError} {used after left : List Lexeme} {l : Lexeme} (t : Token)
      (more : List Lexeme) (x : α) : Reads ts used (l :: after) → e.Blames l → (used = [] → E t) →
      (∀ rest', S (first rest').token → found (used ++ ⟨t, l.position⟩ :: (more ++ rest')) x rest') →
      Completable S E uses found ts (.error e left)
  | tooDeep {p : Nat} {left : List Lexeme} :
      Completable S E uses found ts (.error (.tooDeep p) left)

/-- What the second reading finds in some tokens. -/
def Finding (q : Parse α) (ts : List Lexeme) (x : α) (rest : List Lexeme) : Prop :=
  q ts = .ok x rest

/-- Whatever the first reading has read can be completed to something that the second one finds. -/
def Completes (S E : Token → Prop) (uses : α → Prop) (p q : Parse α) : Prop :=
  ∀ ts, Ended ts → Completable S E uses (Finding q) ts (p ts)

/-- The reading finds something before all tokens that go on with `S'`, if some tokens that go on with
`S` stand between. -/
def Finishes (S S' : Token → Prop) (q : Parse α) : Prop :=
  ∃ more x, ∀ rest, S' (first rest).token →
    S (first (more ++ rest)).token ∧ q (more ++ rest) = .ok x rest

section

variable {S S' E E' E'' : Token → Prop} {uses : α → Prop} {uses' uses'' : β → Prop}
  {p q : Parse α} {ts : List Lexeme}

theorem Completable.imp {found found' : List Lexeme → α → List Lexeme → Prop}
    {result : EStateM.Result ParseError (List Lexeme) α}
    (h : Completable S E uses found ts result)
    (himp : ∀ us x rest, found us x rest → found' us x rest) :
    Completable S E uses found' ts result := by
  cases h with
  | ok hused huses hfound => exact .ok hused huses fun rest' h => himp _ _ _ (hfound rest' h)
  | error t more x hused hblames hfirst hfound =>
    exact .error t more x hused hblames hfirst fun rest' h => himp _ _ _ (hfound rest' h)
  | tooDeep => exact .tooDeep

/-- Nothing has been read. -/
theorem completable_nothing {x : α} (hx : ¬ uses x) (h : p ts = .ok x ts)
    (hfound : ∀ rest', GoesOnLike S ts rest' → q rest' = .ok x rest') :
    Completable S E uses (Finding q) ts (p ts) := by
  rw [h]
  exact .ok .nil (fun h => absurd h hx) hfound

/-- The first token is to blame. -/
theorem completable_blamed {e : ParseError} {left : List Lexeme} {l : Lexeme}
    (h : p (l :: ts) = .error e left) (hblames : e.Blames l) (t : Token) (more : List Lexeme) (x : α)
    (ht : E t) (hfound : ∀ rest', S (first rest').token →
      q (⟨t, l.position⟩ :: (more ++ rest')) = .ok x rest') :
    Completable S E uses (Finding q) (l :: ts) (p (l :: ts)) := by
  rw [h]
  exact .error t more x .nil hblames (fun _ => ht) hfound

/-- What is read after some tokens. -/
theorem completable_afterTokens {p' q' : Parse α} {E' : Token → Prop} {uses' : α → Prop}
    {before us : List Lexeme} (hbefore : Reads us before ts) (hne : before ≠ []) (hus : Ended us)
    (h : Completes S E uses p q) (hp : p' us = p ts) (hq : ∀ vs, q' (before ++ vs) = q vs) :
    Completable S E' uses' (Finding q') us (p' us) := by
  have hnever : ∀ used, before ++ used ≠ [] := fun used =>
    List.append_ne_nil_of_left_ne_nil hne used
  have hout := h ts (hbefore.ended hus)
  rw [hp]
  generalize p ts = a at hout
  cases hout with
  | ok hused huses hfound =>
    refine .ok (hbefore.append hused) (fun _ => hnever _) fun rest' hlike => ?_
    rw [List.append_assoc]
    exact (hq _).trans (hfound rest' hlike)
  | error t more x hused hblames hfirst hfound =>
    refine .error t more x (hbefore.append hused) hblames (fun h => absurd h (hnever _)) ?_
    intro rest' hrest
    rw [List.append_assoc]
    exact (hq _).trans (hfound rest' hrest)
  | tooDeep => exact .tooDeep

theorem completable_afterToken {p' q' : Parse α} {E' : Token → Prop} {uses' : α → Prop} {l : Lexeme}
    (hl : l.token ≠ .eof) (hts : Ended (l :: ts)) (h : Completes S E uses p q)
    (hp : p' (l :: ts) = p ts) (hq : ∀ us, q' (l :: us) = q us) :
    Completable S E' uses' (Finding q') (l :: ts) (p' (l :: ts)) :=
  completable_afterTokens (.one hl) (List.cons_ne_nil l []) hts h hp hq

/-- What is read if the first token is of some kind. -/
theorem completable_branch {p' q' : Parse α} {uses' : α → Prop} (hts : Ended ts)
    (h : Completes S E uses p q) (hp : p' ts = p ts)
    (hq : ∀ us, GoesOnLike (fun t => (S t ∧ ∃ x, ¬ uses x) ∨ E t) ts us → q' us = q us)
    (huses : ∀ x, uses' x → uses x) : Completable S E uses' (Finding q') ts (p' ts) := by
  have hout := h ts hts
  rw [hp]
  generalize p ts = a at hout
  cases hout with
  | @ok x used rest hused hx hfound =>
    refine .ok hused (fun h => hx (huses x h)) fun rest' hlike => ?_
    refine (hq _ (.append hused fun hnil => ?_)).trans (hfound rest' hlike)
    exact hlike.imp_right fun hS => .inl ⟨hS, x, fun h => hx h hnil⟩
  | error t more x hused hblames hfirst hfound =>
    refine .error t more x hused hblames hfirst fun rest' hrest => ?_
    refine (hq _ ?_).trans (hfound rest' hrest)
    exact .append hused fun hnil => .inr (.inr (hfirst hnil))
  | tooDeep => exact .tooDeep

theorem Finishes.returning {f : α → β} (h : Finishes S S' q) : Finishes S S' (do return f (← q)) := by
  obtain ⟨more, x, hq⟩ := h
  exact ⟨more, f x, fun rest' hrest => ⟨(hq rest' hrest).1, bind_of_ok (hq rest' hrest).2⟩⟩

namespace Completes

theorem weaken (h : Completes S E uses p q) {S' : Token → Prop} (hS : ∀ t, S' t → S t) :
    Completes S' E uses p q := by
  intro ts hts
  have hout := h ts hts
  generalize p ts = a at hout
  cases hout with
  | ok hused huses hfound =>
    exact .ok hused huses fun rest' hlike => hfound rest' (hlike.imp_right (hS _))
  | error t more x hused hblames hfirst hfound =>
    exact .error t more x hused hblames hfirst fun rest' hrest => hfound rest' (hS _ hrest)
  | tooDeep => exact .tooDeep

theorem pure {x : α} (hx : ¬ uses x) : Completes S E uses (pure x) (pure x) :=
  fun _ _ => completable_nothing hx rfl fun _ _ => rfl

/-- Two readings one after another.  The second one finds something where the first one has been
completed, and does not disturb the first one if it reads nothing before what follows. -/
theorem bind {f g : α → Parse β} (hp : Completes S E uses p q)
    (hf : ∀ x, Completes S' E' uses' (f x) (g x)) (hS : ∀ y t, ¬ uses' y → S' t → S t)
    (hE : ∀ t, E t → E'' t) (hE' : ∀ t, E' t → S t ∧ E'' t) (hg : ∀ x, Finishes S S' (g x))
    (huses : ∀ x y, uses'' y → uses x ∨ uses' y) :
    Completes S' E'' uses'' (p >>= f) (q >>= g) := by
  intro ts hts
  have hout := hp ts hts
  generalize hfirst : p ts = a at hout
  cases hout with
  | @ok x used rest hused hx hfound =>
    rw [bind_of_ok hfirst]
    have hout := hf x rest (hused.ended hts)
    generalize f x rest = b at hout
    cases hout with
    | @ok y more rest hmore hy hfound' =>
      refine .ok (hused.append hmore) (fun h => ?_) fun rest' hlike => ?_
      · rcases huses x y h with h | h
        · exact List.append_ne_nil_of_left_ne_nil (hx h) _
        · exact List.append_ne_nil_of_right_ne_nil _ (hy h)
      · have hbefore : GoesOnLike S _ (more ++ rest') := .append hmore fun hnil =>
          hlike.imp_right (hS y _ fun h => hy h hnil)
        rw [List.append_assoc]
        exact (bind_of_ok (hfound _ hbefore)).trans (hfound' rest' hlike)
    | error t after y hmore hblames ht hfound' =>
      refine .error t after y (hused.append hmore) hblames (fun hnil => ?_) fun rest' hrest => ?_
      · exact (hE' t (ht (List.append_eq_nil_iff.1 hnil).2)).2
      · rw [List.append_assoc]
        refine (bind_of_ok (hfound _ ?_)).trans (hfound' rest' hrest)
        exact .append hmore fun hnil => .inr (hE' t (ht hnil)).1
    | tooDeep => exact .tooDeep
  | error t more x hused hblames ht hfound =>
    rw [bind_of_error hfirst]
    obtain ⟨after, y, hfinish⟩ := hg x
    refine .error t (more ++ after) y hused hblames (fun h => hE t (ht h)) fun rest' hrest => ?_
    obtain ⟨hstop, hread⟩ := hfinish rest' hrest
    rw [List.append_assoc]
    exact (bind_of_ok (hfound _ hstop)).trans hread
  | tooDeep =>
    rw [bind_of_error hfirst]
    exact .tooDeep

/-- A second reading that does not fail at its first token. -/
theorem andThen {f g : α → Parse β} (hp : Completes S E uses p q)
    (hf : ∀ x, Completes S (fun _ => False) (fun _ => False) (f x) (g x))
    (hg : ∀ x, Finishes S S (g x)) (huses : ∀ x y, uses' y → uses x) :
    Completes S E uses' (p >>= f) (q >>= g) := by
  refine hp.bind hf (fun _ _ _ h => h) (fun _ h => h) ?_ hg fun x y h => .inl (huses x y h)
  exact fun _ h => absurd h id

/-- A reading whose result is only put into another form. -/
theorem returning (hp : Completes S E uses p q) (f : α → β)
    (huses : ∀ x, uses' (f x) → uses x) :
    Completes S E uses' (do return f (← p)) (do return f (← q)) := by
  intro ts hts
  have hout := hp ts hts
  generalize hfirst : p ts = a at hout
  cases hout with
  | ok hused hx hfound =>
    rw [bind_of_ok hfirst]
    exact .ok hused (fun h => hx (huses _ h)) fun rest' hlike => bind_of_ok (hfound rest' hlike)
  | error t more x hused hblames ht hfound =>
    rw [bind_of_error hfirst]
    exact .error t more (f x) hused hblames ht fun rest' hrest => bind_of_ok (hfound rest' hrest)
  | tooDeep =>
    rw [bind_of_error hfirst]
    exact .tooDeep

theorem map (hp : Completes S E uses p q) (f : α → β) (huses : ∀ x, uses' (f x) → uses x) :
    Completes S E uses' (f <$> p) (f <$> q) := by
  rw [map_eq_pure_bind, map_eq_pure_bind]
  exact hp.returning f huses

/-- If a token follows, it is read. -/
theorem ifAccept {t : Token} (ht : t ≠ .eof) {p' q' : Parse α} {uses' : α → Prop}
    (hyes : Completes S E' uses' p q) (hno : Completes S E uses p' q') (hS : ¬ S t) (hE : ¬ E t) :
    Completes S E uses (do if ← accept t then p else p') (do if ← accept t then q else q') := by
  intro ts hts
  obtain ⟨⟨u, pos⟩, ts, rfl⟩ := hts.exists_cons
  by_cases hu : u = t
  · subst hu
    refine completable_afterToken ht hts hyes (bind_of_ok (accept_of_eq ht pos ts)) fun us => ?_
    exact bind_of_ok (accept_of_eq ht pos us)
  · refine completable_branch hts hno (bind_of_ok (accept_of_ne (by exact hu))) (fun us hus => ?_)
      fun _ h => h
    refine bind_of_ok (accept_of_ne ?_)
    rintro rfl
    rcases hus with h | h | h
    · exact hu h.symm
    · exact hS h.1
    · exact hE h

/-! ### Repetition -/

section

variable {step step' : Parse (Option α)}

/-- A step that finds something reads a token, so that neither reading runs out of repetitions. -/
theorem upTo (h : Completes S (fun _ => False) (fun o => o.isSome) step step')
    (hstop : ∀ rest, S (first rest).token → step' rest = .ok none rest) (n : Nat) {ts : List Lexeme}
    (hts : Ended ts) (hlength : ts.length ≤ n) :
    Completable S (fun _ => False) (fun _ => False) (Repeats step') ts (upTo n step ts) := by
  induction n generalizing ts with
  | zero =>
    obtain ⟨l, us, rfl⟩ := hts.exists_cons
    exact absurd hlength (Nat.not_succ_le_zero _)
  | succ n ih =>
    have hout := h ts hts
    generalize hfirst : step ts = a at hout
    cases hout with
    | @ok o used rest hused hsome hfound =>
      cases o with
      | none =>
        have hread : Parse.upTo (n + 1) step ts = .ok [] rest := bind_of_ok hfirst
        rw [hread]
        refine .ok hused False.elim fun rest' hlike => ?_
        cases used with
        | nil => exact .stop (hfound rest' hlike)
        | cons l used => exact .stopAfter (hfound rest' hlike)
      | some x =>
        have hread : Parse.upTo (n + 1) step ts = (do return x :: (← Parse.upTo n step) : Parse _) rest :=
          bind_of_ok hfirst
        obtain ⟨l, used, rfl⟩ := List.exists_cons_of_ne_nil (hsome rfl)
        have hshorter : rest.length ≤ n := by
          have hlt := length_lt_cons_append l used rest
          rw [hused.1] at hlength
          exact Nat.le_of_lt_succ (Nat.lt_of_lt_of_le hlt hlength)
        have hlater := ih (hused.ended hts) hshorter
        rw [hread]
        generalize hrest : Parse.upTo n step rest = b at hlater
        cases hlater with
        | ok hmore _ hrepeats =>
          rw [bind_of_ok hrest]
          refine .ok (hused.append hmore) False.elim fun rest' hlike => ?_
          rw [List.append_assoc]
          have hbefore := GoesOnLike.append hmore fun _ => hlike
          exact .more (hfound _ hbefore) (length_lt_cons_append l used _) (hrepeats rest' hlike)
        | error t after xs hmore hblames hnever hrepeats =>
          rw [bind_of_error hrest]
          refine .error t after (x :: xs) (hused.append hmore) hblames (by simp) fun rest' hgoes => ?_
          rw [List.append_assoc]
          refine .more (hfound _ ?_) (length_lt_cons_append l used _) (hrepeats rest' hgoes)
          exact .append hmore fun hnil => absurd (hnever hnil) id
        | tooDeep =>
          rw [bind_of_error hrest]
          exact .tooDeep
    | @error e used after left l t more o hused hblames hnever hfound =>
      have hread : Parse.upTo (n + 1) step ts = .error e left := bind_of_error hfirst
      obtain ⟨m, used, rfl⟩ := List.exists_cons_of_ne_nil hnever
      rw [hread]
      refine .error t more o.toList hused hblames hnever fun rest' hgoes => ?_
      have hcompleted := hfound rest' hgoes
      cases o with
      | none => exact .stopAfter hcompleted
      | some x =>
        refine .more hcompleted ?_ (.stop (hstop rest' hgoes))
        have hlt := length_lt_cons_append m (used ++ ⟨t, l.position⟩ :: more) rest'
        rw [List.append_assoc] at hlt
        exact hlt
    | tooDeep =>
      have hread : Parse.upTo (n + 1) step ts = .error _ _ := bind_of_error hfirst
      rw [hread]
      exact .tooDeep

theorem many (h : Completes S (fun _ => False) (fun o => o.isSome) step step')
    (hstop : ∀ rest, S (first rest).token → step' rest = .ok none rest) :
    Completes S (fun _ => False) (fun _ => False) (many step) (many step') :=
  fun ts hts => (h.upTo hstop ts.length hts (Nat.le_refl _)).imp fun _ _ _ => Repeats.many

theorem finishes_many (hstop : ∀ rest, S (first rest).token → step' rest = .ok none rest) :
    Finishes S S (Parse.many step') :=
  ⟨[], [], fun rest' h => ⟨h, (Repeats.stop (hstop rest' h)).many⟩⟩

/-- The items of a list that ends with a closing bracket. -/
theorem listOf (h : Completes Closes E (fun o => o.isSome) step step') :
    Completes Closes E (fun _ => False) (listOf step) (listOf step') := by
  have hcomma : ¬ Closes .comma := by
    rintro ⟨c, hc⟩
    cases c <;> exact absurd hc (by simp [Bracketed.closing])
  have hafter : Completes Closes (fun _ => False) (fun o => o.isSome) (afterComma step)
      (afterComma step') := ifAccept (by simp) h (.pure (by simp)) hcomma id
  have hstop : ∀ rest, Closes (first rest).token → afterComma step' rest = .ok none rest := by
    intro rest hrest
    exact afterComma_of_ne step' fun hfirst => hcomma (hfirst ▸ hrest)
  refine h.andThen (fun o => ?_) (fun o => ?_) (fun _ _ => False.elim)
  · cases o with
    | none => exact .pure id
    | some x => exact (hafter.many hstop).returning _ fun _ h => h
  · cases o with
    | none => exact ⟨[], [], fun rest' hrest => ⟨hrest, rfl⟩⟩
    | some x => exact (finishes_many hstop).returning

end

/-! ### Single tokens -/

theorem close_of_ne {c : Bracketed} {ts : List Lexeme} (h : (first ts).token ≠ c.closing) :
    close c ts = .error (.missingClosing c (first ts)) ts :=
  bind_of_ok (accept_of_ne h)

theorem separator_of_ne {c : Separated} {ts : List Lexeme} (h : (first ts).token ≠ .colon) :
    separator c ts = .error (.missingSeparator c (first ts)) ts :=
  bind_of_ok (accept_of_ne h)

/-- What stands before a closing bracket. -/
theorem closed (h : Completes Closes E uses p q) (c : Bracketed) (f : α → β) :
    Completes Stops (fun _ => True) (fun _ => True) (do let x ← p; close c; return f x)
      (do let x ← q; close c; return f x) := by
  have hclose : ∀ x, Completes Stops (· = c.closing) (fun _ => True)
      (do close c; return f x) (do close c; return f x) := by
    intro x ts hts
    obtain ⟨⟨t, pos⟩, ts, rfl⟩ := hts.exists_cons
    have hread : ∀ pos us, (do close c; return f x : Parse β) (⟨c.closing, pos⟩ :: us) =
        .ok (f x) us := fun pos us => bind_of_ok (close_apply c pos us)
    by_cases ht : t = c.closing
    · subst ht
      have hpure : Completes Stops (fun _ => False) (fun _ => False) (Pure.pure (f x) : Parse β)
          (Pure.pure (f x)) := .pure id
      exact completable_afterToken (closing_ne_eof c) hts hpure (hread pos ts) (hread pos)
    · exact completable_blamed (bind_of_error (close_of_ne (by exact ht))) .missingClosing c.closing []
        (f x) rfl fun rest' _ => hread pos rest'
  refine h.bind hclose (fun _ _ hnever => absurd trivial hnever) (fun _ _ => trivial) ?_ (fun x => ?_)
    (fun _ _ _ => .inr trivial)
  · rintro t rfl
    exact ⟨⟨c, rfl⟩, trivial⟩
  · exact ⟨[⟨c.closing, 0⟩], f x, fun rest' _ => ⟨⟨c, rfl⟩, bind_of_ok (close_apply c 0 rest')⟩⟩

/-! ### Chains -/

section

variable {r : Rank} {op? : Token → Option ω}

theorem term (hop : Operators r op?) (h : Completes Stops E uses p q) :
    Completes Stops (fun _ => False) (fun o => o.isSome) (term op? p) (term op? q) := by
  intro ts hts
  obtain ⟨⟨t, pos⟩, ts, rfl⟩ := hts.exists_cons
  cases ht : op? t with
  | none =>
    have hnone : op? (first (⟨t, pos⟩ :: ts)).token = none := ht
    exact completable_nothing (by simp) (term_of_none p hnone) fun rest' hlike =>
      term_of_none q (hop.none_of_goesOnLike hnone hlike)
  | some op =>
    have hne : t ≠ .eof := by
      rintro rfl
      exact absurd (hop.goesOn? ht) (by simp [Token.goesOn?])
    have hread : ∀ p : Parse α, ∀ us, Parse.term op? p (⟨t, pos⟩ :: us) =
        (do return some (op, ← p) : Parse _) us := by
      intro p us
      rw [term_of_some p ht, afterFirst_cons hne]
    have hoperand : Completes Stops E (fun _ => False) (do return some (op, ← p))
        (do return some (op, ← q)) := h.returning _ fun _ => False.elim
    exact completable_afterToken hne hts hoperand (hread p ts) (hread q)

theorem chainTree (hop : Operators r op?) {operand operand' : Parse Expr}
    (h : Completes Stops E (fun _ => True) operand operand') (node : Expr → List (ω × Expr) → Expr) :
    Completes Stops E (fun _ => True) (chainTree node op? operand) (chainTree node op? operand') := by
  have hstop : ∀ rest, Stops (first rest).token → Parse.term op? operand' rest = .ok none rest :=
    fun rest hrest => term_of_none operand' (hop.eq_none (Rank.endsBefore_of_none hrest))
  have hchain : Completes Stops E (fun _ => True) (chain op? operand) (chain op? operand') := by
    rw [chain_eq, chain_eq]
    refine h.andThen (fun x => ?_) (fun x => ?_) (fun _ _ h => h)
    · exact ((h.term hop).many hstop).returning _ fun _ h => h
    · exact (finishes_many hstop).returning
  exact hchain.returning _ fun _ h => h

end

end Completes

end

end Parse

end HostExpr
