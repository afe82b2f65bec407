import HostExpr.Proofs.Chains
import HostExpr.Proofs.IntegerPart
import HostExpr.Proofs.MapBuilding
import HostExpr.Proofs.RootNames
import HostExpr.Proofs.RoundedNaturals
import HostExpr.Proofs.ValueOrder

/-!
# Slices of texts

`substr` of the bundled text object takes the characters of a text by their places.

* `Number.saturated`: the integer part of a number within 64 bits;
* `TextHost.charsAt`: the characters whose places satisfy a condition, with `TextHost.slice_eq`: a slice takes
  the characters between two bounds;
* `HostTable.call_reading`: a method that only reads leaves the host objects alone;
* `TextHost.call_substr`, `TextHost.call_substr_from`, `TextHost.call_length`: the calls of `substr` and
  `length`;
* `TextHost.substr_exact`: which characters `substr` takes, for any numbers, and two laws that follow.
-/

namespace HostExpr

open Stateful

/-! ### Integers within 64 bits -/

namespace Number

/-- The integer part of a number, clamped to the 64-bit integers; zero for NaN. -/
def saturated (x : Float) : ℤ :=
  if x.isNaN then 0
  else if x.isInf then (if x < 0.0 then -2 ^ 63 else 2 ^ 63 - 1)
  else max (-2 ^ 63) (min (2 ^ 63 - 1) (integerPart (value x)))

theorem saturated_of_isFinite {x : Float} (hx : x.isFinite) :
    saturated x = max (-2 ^ 63) (min (2 ^ 63 - 1) (integerPart (value x))) := by
  obtain ⟨hnan, hinf⟩ := not_isNaN_not_isInf hx
  unfold saturated
  rw [if_neg (ne_true_of_eq_false hnan), if_neg (ne_true_of_eq_false hinf)]

theorem toInt64_eq_saturated (x : Float) : toInt64 x = saturated x := by
  unfold toInt64 saturated
  rw [value, Parts.integerPart_value]
  rfl

/-- Truncation does not change the integer that a number is clamped to. -/
theorem toInt64_truncate (x : Float) : toInt64 (truncate x) = saturated x := by
  cases hfinite : x.isFinite with
  | true =>
    obtain ⟨hfinite', hvalue, -⟩ := truncate_finite hfinite
    rw [toInt64_finite hfinite', hvalue, integerPart_intCast, saturated_of_isFinite hfinite]
  | false => rw [truncate_of_not_finite hfinite, toInt64_eq_saturated]

theorem saturated_of_infinite {x : Float} {r : WithBotTop ℚ} (hx : x.isFinite = false)
    (h : extended? x = some r) : saturated x = if r < 0 then -2 ^ 63 else 2 ^ 63 - 1 := by
  obtain ⟨hnan, hinf, hlt⟩ := isInf_of_not_isFinite hx h
  unfold saturated
  rw [if_neg (ne_true_of_eq_false hnan), if_pos hinf]
  simp only [hlt]

theorem saturated_lt (x : Float) : saturated x < 2 ^ 63 := by
  unfold saturated
  split
  · decide
  · split
    · split <;> decide
    · omega

/-- What a number that is not negative is clamped to is not negative, and no count up to it is above the
number. -/
theorem saturated_of_nonneg {x : Float} {r : WithBotTop ℚ} (h : extended? x = some r) (hr : 0 ≤ r) :
    0 ≤ saturated x ∧ ∀ n : ℕ, (n : ℤ) ≤ saturated x →
      ∃ q : ℚ, extended? (Float.ofNat n) = some (q : WithBotTop ℚ) ∧ (q : WithBotTop ℚ) ≤ r := by
  have hcount : ∀ n : ℕ, (n : ℤ) ≤ saturated x → n < 2 ^ 63 := by
    intro n hn
    have hlt := saturated_lt x
    omega
  cases hfinite : x.isFinite with
  | true =>
    obtain rfl : (value x : WithBotTop ℚ) = r := Option.some.inj ((unpack_of_isFinite hfinite).2.2 ▸ h)
    have hvalue : 0 ≤ value x := WithBotTop.coe_le_coe.1 hr
    have hfloor := integerPart_of_nonneg hvalue
    have hnonneg : 0 ≤ ⌊value x⌋ := Int.floor_nonneg.2 hvalue
    rw [saturated_of_isFinite hfinite, hfloor] at hcount ⊢
    refine ⟨by omega, fun n hn => ⟨value (Float.ofNat n), ?_, ?_⟩⟩
    · exact (unpack_of_isFinite (isFinite_ofNat_of_lt (hcount n hn))).2.2
    · have hle : ((n : ℤ) : ℚ) ≤ value x := Int.le_floor.1 (by omega)
      exact WithBotTop.coe_le_coe.2 (value_ofNat_le (hcount n hn) hfinite (mod_cast hle))
  | false =>
    have htop : r = ⊤ := by
      induction r using WithBotTop.rec with
      | bot => exact absurd hr (not_le.2 (bot_lt_iff_ne_bot.2 (WithBotTop.coe_ne_bot 0)))
      | coe q => exact absurd (isFinite_iff_extended.2 ⟨q, h⟩) (ne_true_of_eq_false hfinite)
      | top => rfl
    rw [saturated_of_infinite hfinite h, if_neg (not_lt.2 hr), htop]
    refine ⟨by decide, fun n hn => ⟨value (Float.ofNat n), ?_, le_top⟩⟩
    exact (unpack_of_isFinite (isFinite_ofNat_of_lt (by omega))).2.2

end Number

theorem CompareOp.holds_lessEqual_number {x y : Float} :
    lessEqual.holds (.number x) (.number y) = true ↔
      ∃ r s, Number.extended? x = some r ∧ Number.extended? y = some s ∧ r ≤ s := by
  rw [holds_lessEqual]
  simp only [Value.rank?, Option.map_eq_some_iff]
  constructor
  · rintro ⟨_, _, ⟨r, hr, rfl⟩, ⟨s, hs, rfl⟩, hle⟩
    exact ⟨r, s, hr, hs, Sum.inl_le_inl_iff.1 hle⟩
  · rintro ⟨r, s, hr, hs, hle⟩
    exact ⟨_, _, ⟨r, hr, rfl⟩, ⟨s, hs, rfl⟩, Sum.inl_le_inl_iff.2 hle⟩

/-! ### Characters by their places -/

namespace TextHost

/-- The characters of a text whose places, counted from zero, satisfy a condition. -/
def charsAt (p : ℕ → Bool) (cs : List Char) : List Char :=
  (cs.zipIdx.filter fun t => p t.2).map Prod.fst

theorem charsAt_cons (p : ℕ → Bool) (c : Char) (cs : List Char) :
    charsAt p (c :: cs) =
      if p 0 then c :: charsAt (fun i => p (i + 1)) cs else charsAt (fun i => p (i + 1)) cs := by
  have hrest : ((cs.zipIdx 1).filter fun t => p t.2).map Prod.fst = charsAt (fun i => p (i + 1)) cs := by
    rw [show (1 : ℕ) = 0 + 1 from rfl, List.zipIdx_succ, List.filter_map, List.map_map]
    rfl
  rw [← hrest]
  show (((c, 0) :: cs.zipIdx 1).filter fun t => p t.2).map Prod.fst = _
  rw [List.filter_cons]
  split <;> rfl

theorem charsAt_true (cs : List Char) : charsAt (fun _ => true) cs = cs := by
  induction cs with
  | nil => rfl
  | cons c cs ih => rw [charsAt_cons, if_pos rfl, ih]

/-- The characters before a place. -/
theorem charsAt_lt (n : ℕ) (cs : List Char) : charsAt (fun i => decide (i < n)) cs = cs.take n := by
  induction cs generalizing n with
  | nil => rw [List.take_nil]; rfl
  | cons c cs ih =>
    rw [charsAt_cons]
    cases n with
    | zero =>
      have hnone : charsAt (fun i => decide (i + 1 < 0)) cs = charsAt (fun i => decide (i < 0)) cs := rfl
      rw [if_neg (by simp), hnone, ih, List.take_zero, List.take_zero]
    | succ n =>
      have hrest : (fun i => decide (i + 1 < n + 1)) = fun i => decide (i < n) := by
        funext i
        simp
      rw [if_pos (by simp), hrest, ih, List.take_succ_cons]

/-- A condition that no place before `n` satisfies chooses among the characters from there on. -/
theorem charsAt_drop {p : ℕ → Bool} {n : ℕ} (h : ∀ i < n, p i = false) (cs : List Char) :
    charsAt p cs = charsAt (fun i => p (i + n)) (cs.drop n) := by
  induction n generalizing p cs with
  | zero => rfl
  | succ n ih =>
    cases cs with
    | nil => rfl
    | cons c cs =>
      have hstep : ∀ i < n, p (i + 1) = false := fun i hi => h (i + 1) (by omega)
      have hfirst : ¬p 0 = true := ne_true_of_eq_false (h 0 (by omega))
      rw [charsAt_cons, if_neg hfirst, ih hstep, List.drop_succ_cons]
      rfl

/-- A slice takes the characters between two bounds, or all from the lower one on. -/
theorem slice_eq (cs : List Char) (start length : ℤ) :
    slice cs start length =
      charsAt (fun i => max start 0 ≤ i ∧ (length < 0 ∨ (i : ℤ) < max start 0 + length)) cs := by
  have hbefore : ∀ i < start.toNat,
      decide (max start 0 ≤ (i : ℤ) ∧ (length < 0 ∨ (i : ℤ) < max start 0 + length)) = false := by
    intro i hi
    rw [decide_eq_false_iff_not]
    omega
  rw [charsAt_drop hbefore]
  unfold slice
  by_cases h : length < 0
  · have hall : (fun i : ℕ => decide (max start 0 ≤ ((i + start.toNat : ℕ) : ℤ) ∧
        (length < 0 ∨ ((i + start.toNat : ℕ) : ℤ) < max start 0 + length))) = fun _ => true := by
      funext i
      rw [decide_eq_true_iff]
      omega
    rw [hall, charsAt_true]
    exact if_pos h
  · have hbound : (fun i : ℕ => decide (max start 0 ≤ ((i + start.toNat : ℕ) : ℤ) ∧
        (length < 0 ∨ ((i + start.toNat : ℕ) : ℤ) < max start 0 + length))) =
          fun i => decide (i < length.toNat) := by
      funext i
      rw [decide_eq_decide]
      omega
    rw [hbound, charsAt_lt]
    exact if_neg h

/-- A text is put together from the slice of some length at its start and the slice from there on. -/
theorem slice_append_slice (cs : List Char) {k length : ℤ} (hk : 0 ≤ k) (hlength : length < 0) :
    slice cs 0 k ++ slice cs k length = cs := by
  unfold slice
  simp only [if_neg (not_lt.2 hk), if_pos hlength]
  exact List.take_append_drop ..

theorem length_slice_le (cs : List Char) (start : ℤ) {length : ℤ} (h : 0 ≤ length) :
    ((slice cs start length).length : ℤ) ≤ length := by
  unfold slice
  simp only [if_neg (not_lt.2 h), List.length_take]
  omega

end TextHost

/-! ### Calls of the text object -/

section

variable {σ : Type} {table : HostTable σ} {ref : HostRef}

/-- A method that only reads leaves the host objects alone. -/
theorem HostTable.call_reading {object : HostObject σ} (hobject : table.object? ref = some object)
    {method : String} {params : List Param} {run : σ → List Value → Except EvalError Value}
    (hallows : object.allows method = true)
    (hmethod : Entries.find? method object.descriptor.methods = some (.reading params run))
    {args bound : List Value} (hbind : bindArguments ref.typeName method params args = .ok bound) :
    interface.call ref method args table = Eval.ofExcept (run object.state bound) table := by
  have hadmitted : Admitted interface table ref method args bound := by
    refine ⟨?_, params, ?_, hbind⟩
    · show (table.object? ref).any (·.allows method) = true
      rw [hobject]
      exact hallows
    · show (table.object? ref).bind (·.params? method) = some params
      rw [hobject]
      show (Entries.find? method object.descriptor.methods).map Method.params = some params
      rw [hmethod]
      rfl
  have hinvoke : object.invoke method bound = (run object.state bound, object) := by
    unfold HostObject.invoke
    rw [hmethod]
    rfl
  have hset : table.objects.set ref.id object = table.objects := by
    obtain ⟨hlt, heq⟩ := List.getElem?_eq_some_iff.1 hobject
    rw [← heq]
    exact List.set_getElem_self hlt
  rw [HostInterface.call_of_admitted _ hadmitted]
  show invoke ref method bound table = _
  rw [invoke_of_some hobject, hinvoke, hset]

namespace TextHost

variable {state : σ} (h : table.object? ref = some ⟨descriptor, state⟩)

include h

/-- `substr` slices a text by the integers that its numbers are clamped to. -/
theorem call_substr (s : String) (start length : Float) :
    HostTable.interface.call ref "substr" [.text s, .number start, .number length] table =
      .ok (onChars (slice · (Number.saturated start) (Number.saturated length)) s) table := by
  rw [HostTable.call_reading h rfl rfl rfl, ← Number.toInt64_truncate, ← Number.toInt64_truncate]
  rfl

/-- Without a length, `substr` takes everything from the start on. -/
theorem call_substr_from (s : String) (start : Float) :
    HostTable.interface.call ref "substr" [.text s, .number start] table =
      .ok (onChars (slice · (Number.saturated start) (-1)) s) table := by
  have hdefault : Number.toInt64 (-1.0) = -1 := by decide +kernel
  rw [HostTable.call_reading h rfl rfl rfl, ← Number.toInt64_truncate, ← hdefault]
  rfl

theorem call_length (s : String) :
    HostTable.interface.call ref "length" [.text s] table = .ok (.ofCount s.length) table := by
  rw [HostTable.call_reading h rfl rfl rfl]
  rfl

end TextHost

end

/-! ### Expressions with the text object -/

/-- The sum of two texts joins them. -/
theorem Expr.eval_sum_texts {W : Type} {hosts : HostInterface W} {root : Value} {first second : Expr}
    {t u : String} {s s' s'' : W} (hfirst : first.eval hosts root s = .ok (.text t) s')
    (hsecond : second.eval hosts root s' = .ok (.text u) s'') :
    (Expr.sum first [(.add, second)]).eval hosts root s = .ok (.text (t ++ u)) s'' := by
  have hrest : evalSum hosts root (.start (.text t)) [(.add, second)] s' =
      .ok (.joined (t ++ u)) s'' := by
    rw [evalSum, bind_of_ok hsecond, evalSum]
    rfl
  rw [Expr.eval, bind_of_ok hfirst]
  exact bind_of_ok hrest

namespace TextHost

/-- The name `String` of a context is a text object of the table. -/
def Provides {σ : Type} (context : Context) (table : HostTable σ) : Prop :=
  ∃ ref state, context.root.lookup HostTable.interface table (.name "String") = .ok (.host ref) ∧
    table.object? ref = some ⟨descriptor, state⟩

/-- A call of a method of the text object, as an expression. -/
def callOf (method : String) (args : List Expr) : Expr :=
  .path [.name "String", .call method args]

theorem provides_bindBundled {σ : Type} (setup : Setup σ) (state : σ) :
    Provides (setup.bindBundled state).context (setup.bindBundled state).hosts := by
  obtain ⟨entries, hroot, hfind⟩ := setup.context.exists_bind_root "String"
    (.host ⟨setup.hosts.objects.length, "String"⟩)
  refine ⟨⟨setup.hosts.objects.length, "String"⟩, state, ?_, ?_⟩
  · refine (Context.lookup_bind _ _ hroot "Array" _ (.name "String")).trans ?_
    rw [if_neg (by decide), hroot, Value.lookup]
    show Except.ok ((Entries.find? "String" entries).getD .null) = _
    rw [hfind]
    rfl
  · rw [setup.hosts_bindBundled]
    show (setup.hosts.objects ++ [_, _])[setup.hosts.objects.length]? = _
    rw [List.getElem?_append_right le_rfl, Nat.sub_self]
    rfl

section

variable {σ : Type} {context : Context} {table : HostTable σ} {ref : HostRef}

theorem eval_callOf
    (hroot : context.root.lookup HostTable.interface table (.name "String") = .ok (.host ref))
    {method : String} {args : List Expr} {vs : List Value} {v : Value}
    (hargs : evalItems HostTable.interface context.root args table = .ok vs table)
    (hcall : HostTable.interface.call ref method vs table = .ok v table) :
    (callOf method args).eval HostTable.interface context.root table = .ok v table := by
  have hnull : context.root.isNull = false := by
    cases hvalue : context.root with
    | null =>
      rw [hvalue] at hroot
      cases hroot
    | _ => rfl
  have hname : (Segment.name "String").eval HostTable.interface context.root context.root table =
      .ok (.host ref) table := by
    rw [Segment.eval, Value.get_apply, hroot]
    rfl
  have hmethod : (Segment.call method args).eval HostTable.interface context.root (.host ref) table =
      .ok v table := by
    rw [Segment.eval, bind_of_ok hargs]
    exact hcall
  rw [callOf, Expr.eval, evalPath_cons _ _ hnull, bind_of_ok hname, evalPath_cons _ _ rfl,
    bind_of_ok hmethod, evalPath]
  rfl

section

variable {state : σ}
  (hroot : context.root.lookup HostTable.interface table (.name "String") = .ok (.host ref))
  (hobject : table.object? ref = some ⟨descriptor, state⟩)

include hroot hobject

theorem eval_substr (s : String) (start length : Float) :
    (callOf "substr" [.text s, .number start, .number length]).eval HostTable.interface context.root
        table =
      .ok (onChars (slice · (Number.saturated start) (Number.saturated length)) s) table := by
  refine eval_callOf hroot ?_ (call_substr hobject s start length)
  simp only [evalItems, Expr.eval]
  rfl

theorem eval_substr_from (s : String) (start : Float) :
    (callOf "substr" [.text s, .number start]).eval HostTable.interface context.root table =
      .ok (onChars (slice · (Number.saturated start) (-1)) s) table := by
  refine eval_callOf hroot ?_ (call_substr_from hobject s start)
  simp only [evalItems, Expr.eval]
  rfl

theorem eval_length {e : Expr} {s : String}
    (he : e.eval HostTable.interface context.root table = .ok (.text s) table) :
    (callOf "length" [e]).eval HostTable.interface context.root table = .ok (.ofCount s.length) table := by
  refine eval_callOf hroot ?_ (call_length hobject s)
  rw [evalItems, bind_of_ok he, evalItems]
  rfl

end

/-- The parts of a text that `substr` takes before and after a place join to the text. -/
theorem run_substr_join (h : Provides context table) (s : String) {k : Float}
    (hk : 0 ≤ Number.saturated k) :
    (Expr.sum (callOf "substr" [.text s, .number 0.0, .number k])
        [(.add, callOf "substr" [.text s, .number k])]).run HostTable.interface context table =
      (.ok (.text s), table) := by
  obtain ⟨ref, state, hroot, hobject⟩ := h
  have hzero : Number.saturated 0.0 = 0 := by decide +kernel
  have hfirst := eval_substr hroot hobject s 0.0 k
  have hsecond := eval_substr_from hroot hobject s k
  have hjoin : String.ofList (slice s.toList 0 (Number.saturated k)) ++
      String.ofList (slice s.toList (Number.saturated k) (-1)) = s := by
    rw [← String.ofList_append, slice_append_slice _ hk (by decide), String.ofList_toList]
  rw [hzero] at hfirst
  unfold Expr.run
  rw [Expr.eval_sum_texts hfirst hsecond, hjoin]

/-- The length of what `substr` takes is at most the length that was asked for. -/
theorem run_length_substr (h : Provides context table) (s : String) (start : Float) {n : Float}
    (hn : CompareOp.greaterEqual.holds (.number n) (.number 0.0) = true) :
    (Expr.compare .lessEqual (callOf "length" [callOf "substr" [.text s, .number start, .number n]])
        (.number n)).run HostTable.interface context table = (.ok (.boolean true), table) := by
  obtain ⟨ref, state, hroot, hobject⟩ := h
  have hlength := eval_length hroot hobject (eval_substr hroot hobject s start n)
  have hnumber : (Expr.number n).eval HostTable.interface context.root table = .ok (.number n) table := by
    rw [Expr.eval]
    rfl
  -- there are at most as many characters as the integer that was asked for
  have hzero : Number.extended? 0.0 = some 0 := by decide +kernel
  rw [CompareOp.holds_greaterEqual, CompareOp.holds_lessEqual_number, hzero] at hn
  obtain ⟨_, r, ⟨⟩, hr, hnonneg⟩ := hn
  obtain ⟨hasked, hcount⟩ := Number.saturated_of_nonneg hr hnonneg
  obtain ⟨q, hq, hle⟩ := hcount _ (length_slice_le s.toList (Number.saturated start) hasked)
  have hholds : CompareOp.lessEqual.holds
      (.ofCount (String.ofList (slice s.toList (Number.saturated start) (Number.saturated n))).length)
      (.number n) = true := by
    rw [String.length_ofList]
    exact CompareOp.holds_lessEqual_number.2 ⟨q, r, hq, hr, hle⟩
  unfold Expr.run
  rw [Expr.eval_compare hlength hnumber, hholds]

end

/-- **`substr` is a clamped slice of characters.**  For any numbers it succeeds, and takes exactly the
characters whose places lie between two bounds: the start, or zero if that is negative, and the length
further on, unless it is negative or omitted.  The parts before and after a place then join to the text,
and no part is longer than was asked for. -/
theorem substr_exact :
    (∀ (σ : Type) (table : HostTable σ) (ref : HostRef) (state : σ),
      table.object? ref = some ⟨descriptor, state⟩ → ∀ (s : String) (start : Float),
        (∀ length : Float,
          HostTable.interface.call ref "substr" [.text s, .number start, .number length] table =
            .ok (.text (String.ofList (charsAt (fun i => max (Number.saturated start) 0 ≤ i ∧
              (Number.saturated length < 0 ∨
                i < max (Number.saturated start) 0 + Number.saturated length)) s.toList))) table) ∧
        HostTable.interface.call ref "substr" [.text s, .number start] table =
          .ok (.text (String.ofList
            (charsAt (fun i => max (Number.saturated start) 0 ≤ i) s.toList))) table) ∧
    ∀ (σ : Type) (context : Context) (table : HostTable σ), Provides context table → ∀ s : String,
      (∀ k : Float, 0 ≤ Number.saturated k →
        (Expr.sum (callOf "substr" [.text s, .number 0.0, .number k])
            [(.add, callOf "substr" [.text s, .number k])]).run HostTable.interface context table =
          (.ok (.text s), table)) ∧
      ∀ start n : Float, CompareOp.greaterEqual.holds (.number n) (.number 0.0) = true →
        (Expr.compare .lessEqual (callOf "length" [callOf "substr" [.text s, .number start, .number n]])
            (.number n)).run HostTable.interface context table = (.ok (.boolean true), table) := by
  refine ⟨fun σ table ref state h s start => ⟨fun length => ?_, ?_⟩, fun σ context table h s => ⟨?_, ?_⟩⟩
  · rw [call_substr h, onChars, slice_eq]
  · rw [call_substr_from h, onChars, slice_eq]
    simp
  · exact fun k hk => run_substr_join h s hk
  · exact fun start n hn => run_length_substr h s start hn

/-- `substr('héllo', 1.5, 2)` is `él`, a start below zero counts as zero, and both laws hold where the bundled
objects are bound. -/
theorem substr_exact_accent :
    HostTable.interface.call ⟨0, "String"⟩ "substr" [.text "héllo", .number 1.5, .number 2.0]
      (⟨[⟨descriptor, ()⟩]⟩ : HostTable Unit) = .ok (.text "él") ⟨[⟨descriptor, ()⟩]⟩ ∧
    HostTable.interface.call ⟨0, "String"⟩ "substr" [.text "héllo", .number (-3.0), .number 2.0]
      (⟨[⟨descriptor, ()⟩]⟩ : HostTable Unit) = .ok (.text "hé") ⟨[⟨descriptor, ()⟩]⟩ ∧
    ((Expr.sum (callOf "substr" [.text "héllo", .number 0.0, .number 2.0])
        [(.add, callOf "substr" [.text "héllo", .number 2.0])]).run HostTable.interface
      (Setup.bindBundled () ⟨⟨.null⟩, ({} : HostTable Unit)⟩).context
      (Setup.bindBundled () ⟨⟨.null⟩, ({} : HostTable Unit)⟩).hosts).1 = .ok (.text "héllo") ∧
    ((Expr.compare .lessEqual (callOf "length" [callOf "substr" [.text "héllo", .number 1.0, .number 2.5]])
        (.number 2.5)).run HostTable.interface
      (Setup.bindBundled () ⟨⟨.null⟩, ({} : HostTable Unit)⟩).context
      (Setup.bindBundled () ⟨⟨.null⟩, ({} : HostTable Unit)⟩).hosts).1 = .ok (.boolean true) := by
  obtain ⟨hslice, hlaws⟩ := substr_exact
  obtain ⟨hjoin, hlength⟩ := hlaws _ _ _ (provides_bindBundled ⟨⟨.null⟩, ({} : HostTable Unit)⟩ ()) "héllo"
  have hsaturated : Number.saturated 1.5 = 1 ∧ Number.saturated 2.0 = 2 ∧
      Number.saturated (-3.0) = -3 := by decide +kernel
  obtain ⟨hone, htwo, hthree⟩ := hsaturated
  have hmiddle : String.ofList (charsAt (fun i => max 1 0 ≤ (i : ℤ) ∧
      ((2 : ℤ) < 0 ∨ (i : ℤ) < max 1 0 + 2)) "héllo".toList) = "él" := by decide +kernel
  have hfront : String.ofList (charsAt (fun i => max (-3) 0 ≤ (i : ℤ) ∧
      ((2 : ℤ) < 0 ∨ (i : ℤ) < max (-3) 0 + 2)) "héllo".toList) = "hé" := by decide +kernel
  refine ⟨?_, ?_, ?_, ?_⟩
  · rw [(hslice Unit _ _ () rfl "héllo" 1.5).1 2.0, hone, htwo, hmiddle]
  · rw [(hslice Unit _ _ () rfl "héllo" (-3.0)).1 2.0, hthree, htwo, hfront]
  · rw [hjoin 2.0 (by rw [htwo]; decide)]
  · rw [hlength 1.0 2.5 (by decide +kernel)]

end TextHost

end HostExpr
