import HostExpr.Proofs.IntegerPart
import HostExpr.Proofs.JsonRoundTrip
import HostExpr.Proofs.ValueEquality

/-!
# Values and documents

The document of a value stands for the value again, but for null in place of a number that is not finite
and the text of its type name in place of a host object.  The numbers are equal and not always the same, as
a negative zero becomes the integer zero.  A document whose numbers are written as those of a value would be
is the document of the value that it stands for.  The values are those with distinct keys, and every value
that is printed is one (`Check.keysDistinct_of_run`).

* `Json.ofNumber_eq_integer_iff`: which numbers become integers, and which integers;
* `Json.toValue_ofNumber`: the number that the document of a number stands for;
* `Json.toValue_ofValue_list`, `Json.toValue_ofValue_map`: there and back for lists and maps;
* `Value.outline`: the lists and maps of a value with their keys, without the scalars;
* `Json.Exact`: the documents with integers below `2 ^ 53` and other finite numbers that are no integers;
* `Json.ofValue_toValue`: these are recovered from their values;
* `Json.conversions`: the two ways round.
-/

namespace HostExpr

namespace Value

/-- What is left of a value without its scalars: its lists, and its maps with their keys in order. -/
def outline : Value → Value
  | list items => list (items.map outline)
  | map entries => map (entries.map fun t => (t.1, t.2.outline))
  | _ => null
  termination_by v => sizeOf v
  decreasing_by
    all_goals simp_wf
    all_goals first
      | have := List.sizeOf_lt_of_mem ‹_ ∈ _›; omega
      | have := sizeOf_snd_lt_of_mem ‹_ ∈ _›; omega

end Value

namespace Json

/-! ### Numbers -/

section Numbers

variable {x : Float} {n : ℤ}

theorem isExactInteger_iff :
    isExactInteger x = true ↔ x.isFinite = true ∧ ∃ n : ℤ, |n| < 2 ^ 53 ∧ Number.value x = n := by
  have hbound : (9007199254740992.0 : Float).isFinite = true ∧
      Number.value 9007199254740992.0 = 2 ^ 53 := by decide +kernel
  rw [isExactInteger, Bool.and_eq_true, decide_eq_true_iff]
  by_cases hx : x.isFinite
  · rw [Number.isIntegral_finite hx, Number.lt_iff_value (Number.isFinite_abs hx) hbound.1,
      Number.value_abs hx, hbound.2, and_iff_right hx]
    constructor
    · rintro ⟨⟨n, hn⟩, hlt⟩
      rw [hn] at hlt
      exact ⟨n, mod_cast hlt, hn⟩
    · rintro ⟨n, hlt, hn⟩
      rw [hn]
      exact ⟨⟨n, rfl⟩, mod_cast hlt⟩
  · simp [Number.isIntegral, hx]

theorem toInt64_of_value (hx : x.isFinite) (hn : |n| < 2 ^ 53) (hvalue : Number.value x = n) :
    Number.toInt64 x = n := by
  obtain ⟨hlow, hhigh⟩ := abs_lt.1 hn
  rw [Number.toInt64_finite hx, hvalue, Number.integerPart_intCast, min_eq_right (by omega),
    max_eq_right (by omega)]

/-- The numbers that become integers are the integral ones below `2 ^ 53`, and no digit is lost. -/
theorem ofNumber_eq_integer_iff :
    ofNumber x = .integer n ↔ x.isFinite = true ∧ |n| < 2 ^ 53 ∧ Number.value x = n := by
  unfold ofNumber
  constructor
  · intro h
    split at h
    · next hexact =>
      obtain ⟨hx, m, hm, hvalue⟩ := isExactInteger_iff.1 hexact
      rw [toInt64_of_value hx hm hvalue] at h
      injection h with h
      exact h ▸ ⟨hx, hm, hvalue⟩
    · split at h <;> cases h
  · rintro ⟨hx, hn, hvalue⟩
    rw [if_pos (isExactInteger_iff.2 ⟨hx, n, hn, hvalue⟩), toInt64_of_value hx hn hvalue]

/-- The integer of a number stands for an equal number. -/
theorem ofInt_beq (h : ofNumber x = .integer n) : (Number.ofInt n == x) = true := by
  obtain ⟨hx, hn, hvalue⟩ := ofNumber_eq_integer_iff.1 h
  obtain ⟨hfinite, hvalue'⟩ := Number.ofInt_exact hn
  rw [Number.beq_iff_value hfinite hx, hvalue, hvalue']

/-- An integer below `2 ^ 53` is recovered from its number. -/
theorem ofNumber_ofInt (hn : |n| < 2 ^ 53) : ofNumber (Number.ofInt n) = .integer n := by
  obtain ⟨hfinite, hvalue⟩ := Number.ofInt_exact hn
  exact ofNumber_eq_integer_iff.2 ⟨hfinite, hn, hvalue⟩

/-- A finite number with a fraction stays as it is. -/
theorem ofNumber_of_fraction (hx : x.isFinite) (h : ¬∃ n : ℤ, Number.value x = n) :
    ofNumber x = .number x := by
  have hexact : ¬isExactInteger x = true := by
    rw [isExactInteger_iff]
    rintro ⟨_, n, _, hn⟩
    exact h ⟨n, hn⟩
  rw [ofNumber, if_neg hexact, if_pos hx]

/-- The document of a number stands for an equal number, or for null if the number is not finite. -/
theorem toValue_ofNumber (x : Float) :
    (toValue (ofNumber x) == (Value.number x).jsonForm) = true := by
  rw [Value.jsonForm, Value.beq_iff]
  by_cases hx : x.isFinite
  · rw [if_pos hx]
    by_cases hexact : isExactInteger x
    · obtain ⟨-, n, hn, hvalue⟩ := isExactInteger_iff.1 hexact
      have hinteger := ofNumber_eq_integer_iff.2 ⟨hx, hn, hvalue⟩
      rw [hinteger]
      exact .number (ofInt_beq hinteger)
    · rw [ofNumber, if_neg hexact, if_pos hx]
      exact .number (Number.beq_self_iff.2 (Number.not_isNaN_not_isInf hx).1)
  · have hexact : ¬isExactInteger x = true := fun h => hx (isExactInteger_iff.1 h).1
    rw [ofNumber, if_neg hexact, if_neg hx, if_neg hx]
    exact .null

end Numbers

/-! ### From values to documents and back -/

theorem ofValues_eq (items : List Value) : ofValues items = items.map ofValue := by
  induction items with
  | nil => rfl
  | cons v vs ih => rw [ofValues, ih, List.map_cons]

theorem ofEntries_eq (entries : List (String × Value)) :
    ofEntries entries = entries.map fun t => (t.1, ofValue t.2) := by
  induction entries with
  | nil => rfl
  | cons t ts ih =>
    obtain ⟨key, v⟩ := t
    rw [ofEntries, ih, List.map_cons]

theorem toValue_ofValue_list (items : List Value) :
    toValue (ofValue (.list items)) = .list (items.map fun v => toValue (ofValue v)) := by
  rw [ofValue, toValue, ofValues_eq, toValues_eq, List.map_map]
  rfl

theorem toValue_map {entries : List (String × Json)} (hkeys : (Entries.keys entries).Nodup) :
    toValue (.map entries) = .map (entries.map fun t => (t.1, toValue t.2)) := by
  rw [toValue, toEntries_eq, Entries.ofPairs_of_nodup]
  rwa [Entries.keys_map]

theorem toValue_ofValue_map {entries : List (String × Value)} (hkeys : (Entries.keys entries).Nodup) :
    toValue (ofValue (.map entries)) = .map (entries.map fun t => (t.1, toValue (ofValue t.2))) := by
  rw [ofValue, ofEntries_eq, toValue_map, List.map_map]
  · rfl
  · rwa [Entries.keys_map]

/-- The document of a value stands for the value, but for null in place of numbers that are not finite and
texts in place of host objects. -/
theorem toValue_ofValue {v : Value} (hv : v.KeysDistinct) :
    (toValue (ofValue v) == v.jsonForm) = true := by
  induction v using Value.induction_inside with
  | h v ih =>
    cases v with
    | null =>
      rw [Value.jsonForm]
      exact Value.beq_iff.2 .null
    | boolean b =>
      rw [Value.jsonForm]
      exact Value.beq_iff.2 (.boolean b)
    | text s =>
      rw [Value.jsonForm]
      exact Value.beq_iff.2 (.text s)
    | host r =>
      rw [Value.jsonForm]
      exact Value.beq_iff.2 (.text _)
    | number x => exact toValue_ofNumber x
    | list items =>
      rw [toValue_ofValue_list, Value.jsonForm, Value.beq_iff]
      refine .list ?_
      rw [List.forall₂_map_left_iff, List.forall₂_map_right_iff, List.forall₂_same]
      exact fun v hmem => ih v hmem (hv.of_inside hmem)
    | map entries =>
      have hkeys : (Entries.keys (entries.map fun t => (t.1, t.2.jsonForm))).Nodup := by
        rw [Entries.keys_map]
        exact hv.nodup
      rw [toValue_ofValue_map hv.nodup, Value.jsonForm, Value.beq_iff]
      refine .map (by rw [List.length_map, List.length_map]) fun u hu => ?_
      obtain ⟨t, ht, rfl⟩ := List.mem_map.1 hu
      refine ⟨t.2.jsonForm, ?_, ih t.2 (List.mem_map_of_mem ht) (hv.of_mem ht)⟩
      exact (Entries.find?_eq_some_iff hkeys).2 (List.mem_map_of_mem ht)

/-- The document of a value keeps its lists, its maps and the order of their keys, at every depth. -/
theorem outline_toValue_ofValue {v : Value} (hv : v.KeysDistinct) :
    (toValue (ofValue v)).outline = v.outline := by
  induction v using Value.induction_inside with
  | h v ih =>
    cases v with
    | number x =>
      rw [ofValue, ofNumber]
      split
      · simp [toValue, Value.outline]
      · split <;> simp [toValue, Value.outline]
    | list items =>
      rw [toValue_ofValue_list, Value.outline, Value.outline, List.map_map]
      exact congrArg _ (List.map_congr_left fun v hmem => ih v hmem (hv.of_inside hmem))
    | map entries =>
      rw [toValue_ofValue_map hv.nodup, Value.outline, Value.outline, List.map_map]
      refine congrArg _ (List.map_congr_left fun t ht => ?_)
      exact Prod.ext rfl (ih t.2 (List.mem_map_of_mem ht) (hv.of_mem ht))
    | _ => simp [ofValue, toValue, Value.outline]

/-! ### From documents to values and back -/

/-- A document whose maps have distinct keys, whose integers are below `2 ^ 53`, and whose other numbers are
finite and have a fraction. -/
inductive Exact : Json → Prop
  | null : Exact .null
  | boolean (b : Bool) : Exact (.boolean b)
  | integer {n : ℤ} : |n| < 2 ^ 53 → Exact (.integer n)
  | number {x : Float} : x.isFinite → (¬∃ n : ℤ, Number.value x = n) → Exact (.number x)
  | text (s : String) : Exact (.text s)
  | list {items : List Json} : (∀ doc ∈ items, Exact doc) → Exact (.list items)
  | map {entries : List (String × Json)} :
      (Entries.keys entries).Nodup → (∀ t ∈ entries, Exact t.2) → Exact (.map entries)

/-- Such a document is the document of the value that it stands for. -/
theorem ofValue_toValue {doc : Json} (h : doc.Exact) : ofValue (toValue doc) = doc := by
  induction h with
  | null => rfl
  | boolean b => rfl
  | text s => rfl
  | integer hn => exact ofNumber_ofInt hn
  | number hx hfraction => exact ofNumber_of_fraction hx hfraction
  | @list items _ ih =>
    rw [toValue, toValues_eq, ofValue, ofValues_eq, List.map_map]
    exact congrArg _ ((List.map_congr_left ih).trans (List.map_id' items))
  | @map entries hkeys _ ih =>
    rw [toValue_map hkeys, ofValue, ofEntries_eq, List.map_map]
    refine congrArg _ (.trans (List.map_congr_left fun t ht => ?_) (List.map_id' entries))
    exact Prod.ext rfl (ih t ht)

/-- The two ways round.  The document of a value stands for an equal value, with null in place of numbers
that are not finite and texts in place of host objects, and with the keys of its maps in the same order.  The
integers of documents are the integral numbers below `2 ^ 53` and stand for equal numbers.  A document with
such integers and with fractions is the document of the value that it stands for. -/
theorem conversions (v : Value) (doc : Json) :
    (v.KeysDistinct →
      (toValue (ofValue v) == v.jsonForm) = true ∧ (toValue (ofValue v)).outline = v.outline) ∧
    (∀ x n, ofNumber x = .integer n ↔ x.isFinite = true ∧ |n| < 2 ^ 53 ∧ Number.value x = n) ∧
    (∀ x n, ofNumber x = .integer n → (Number.ofInt n == x) = true) ∧
    (doc.Exact → ofValue (toValue doc) = doc) :=
  ⟨fun hv => ⟨toValue_ofValue hv, outline_toValue_ofValue hv⟩, fun _ _ => ofNumber_eq_integer_iff,
    fun _ _ => ofInt_beq, ofValue_toValue⟩

/-- A value with a negative zero, a number that is not finite and a host object, and a document with the
largest integer and a fraction. -/
theorem conversions_nested :
    (toValue (ofValue (.map [("b", .list [.number (-0.0), .number (0.0 / 0.0)]),
        ("a", .host ⟨0, "Array"⟩)])) ==
      .map [("b", .list [.number (-0.0), .null]), ("a", .text "[Array]")]) = true ∧
    Number.ofInt 0 == (-0.0) ∧
    ofValue (toValue (.map [("b", .list [.integer 9007199254740991, .number 2.5]), ("a", .null)])) =
      .map [("b", .list [.integer 9007199254740991, .number 2.5]), ("a", .null)] := by
  have hfinite : (-0.0 : Float).isFinite = true ∧ (0.0 / 0.0 : Float).isFinite = false ∧
      (2.5 : Float).isFinite = true ∧ Number.value (-0.0) = 0 ∧ Number.value 2.5 = 5 / 2 := by
    decide +kernel
  obtain ⟨hzero, hnan, hhalf, hvalueZero, hvalueHalf⟩ := hfinite
  have hkeys : (Value.map [("b", .list [.number (-0.0), .number (0.0 / 0.0)]),
      ("a", .host ⟨0, "Array"⟩)]).KeysDistinct := by
    intro entries h
    simp [Value.subvalues_eq, Value.inside] at h
    subst h
    decide
  have hform : (Value.map [("b", .list [.number (-0.0), .number (0.0 / 0.0)]),
      ("a", .host ⟨0, "Array"⟩)]).jsonForm =
        .map [("b", .list [.number (-0.0), .null]), ("a", .text "[Array]")] := by
    simp [Value.jsonForm, hzero, hnan, Value.hostText]
  have hfraction : ¬∃ n : ℤ, Number.value 2.5 = n := by
    rintro ⟨n, hn⟩
    rw [hvalueHalf, div_eq_iff (by norm_num)] at hn
    have htwice : (5 : ℤ) = n * 2 := mod_cast hn
    omega
  have hexact : Exact (.map [("b", .list [.integer 9007199254740991, .number 2.5]), ("a", .null)]) := by
    refine .map (by decide) (List.forall_mem_cons.2 ⟨.list ?_, List.forall_mem_singleton.2 .null⟩)
    exact List.forall_mem_cons.2 ⟨.integer (by decide),
      List.forall_mem_singleton.2 (.number hhalf hfraction)⟩
  obtain ⟨hforth, hinteger, hbeq, hback⟩ := conversions _ _
  refine ⟨hform ▸ (hforth hkeys).1, hbeq _ _ ((hinteger _ _).2 ⟨hzero, by decide, ?_⟩), hback hexact⟩
  rw [hvalueZero, Int.cast_zero]

end Json

end HostExpr
