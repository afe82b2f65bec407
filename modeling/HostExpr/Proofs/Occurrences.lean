import HostExpr.Proofs.Slices

/-!
# Where a text occurs in another

`indexOf` of the bundled text object finds the first place of a text in another one.

* `OccursAt`, `FirstAt`: a list stands in another one from a place on, and from no place before it;
* `TextHost.findPlace?_eq_some_iff`: the search finds the first place;
* `Encoded.bytes`: the bytes of characters in UTF-8, with `Encoded.exists_of_occursAt`: where the bytes of a
  text occur, the text itself occurs, and `Encoded.firstAt_length`: so the first place in bytes is the first
  place in characters;
* `TextHost.indexOf_exact`: what `indexOf` answers, and that `substr` and `length` count alike.
-/

namespace HostExpr

/-! ### Occurrences -/

section

variable {α : Type} {needle cs : List α} {i : ℕ}

/-- A list stands in another one from the place `i` on. -/
def OccursAt (needle cs : List α) (i : ℕ) : Prop :=
  ∃ before after, cs = before ++ needle ++ after ∧ before.length = i

/-- The place `i` is the first one at which a list stands in another one. -/
abbrev FirstAt (needle cs : List α) (i : ℕ) : Prop :=
  IsLeast {k | OccursAt needle cs k} i

theorem occursAt_zero : OccursAt needle cs 0 ↔ needle <+: cs := by
  constructor
  · rintro ⟨before, after, rfl, hbefore⟩
    obtain rfl := List.length_eq_zero_iff.1 hbefore
    exact ⟨after, rfl⟩
  · rintro ⟨after, rfl⟩
    exact ⟨[], after, rfl, rfl⟩

theorem occursAt_succ {c : α} : OccursAt needle (c :: cs) (i + 1) ↔ OccursAt needle cs i := by
  constructor
  · rintro ⟨before, after, heq, hbefore⟩
    obtain ⟨d, before, rfl⟩ := List.exists_cons_of_length_eq_add_one hbefore
    exact ⟨before, after, (List.cons.inj heq).2, Nat.succ.inj hbefore⟩
  · rintro ⟨before, after, rfl, rfl⟩
    exact ⟨c :: before, after, rfl, rfl⟩

theorem not_occursAt_nil_succ : ¬OccursAt needle [] (i + 1) := by
  rintro ⟨before, after, heq, hbefore⟩
  obtain ⟨d, before, rfl⟩ := List.exists_cons_of_length_eq_add_one hbefore
  exact absurd heq (by simp)

theorem OccursAt.le_length (h : OccursAt needle cs i) : i ≤ cs.length := by
  obtain ⟨before, after, rfl, rfl⟩ := h
  simp only [List.length_append]
  omega

theorem occursAt_iff_drop : OccursAt needle cs i ↔ i ≤ cs.length ∧ needle <+: cs.drop i := by
  induction i generalizing cs with
  | zero => rw [occursAt_zero, List.drop_zero, and_iff_right (Nat.zero_le _)]
  | succ i ih =>
    cases cs with
    | nil => exact iff_of_false not_occursAt_nil_succ (by simp)
    | cons c cs => rw [occursAt_succ, ih, List.drop_succ_cons, List.length_cons, Nat.succ_le_succ_iff]

/-- A list occurs at a place if as many items as it has, from there on, are the list. -/
theorem occursAt_iff_take :
    OccursAt needle cs i ↔ i ≤ cs.length ∧ (cs.drop i).take needle.length = needle := by
  rw [occursAt_iff_drop, List.prefix_iff_eq_take, eq_comm (a := needle)]

theorem exists_firstAt (h : ∃ k, OccursAt needle cs k) : ∃ k, FirstAt needle cs k := by
  classical
  exact ⟨_, Nat.isLeast_find h⟩

/-- Unless a list occurs at the start, its first place moves by one with an item that is put in front. -/
theorem firstAt_cons {c : α} (h : ¬needle <+: c :: cs) :
    FirstAt needle (c :: cs) (i + 1) ↔ FirstAt needle cs i := by
  constructor
  · rintro ⟨hoccurs, hleast⟩
    refine ⟨occursAt_succ.1 hoccurs, fun k hk => ?_⟩
    exact Nat.le_of_succ_le_succ (hleast (occursAt_succ.2 hk))
  · rintro ⟨hoccurs, hleast⟩
    refine ⟨occursAt_succ.2 hoccurs, fun k hk => ?_⟩
    cases k with
    | zero => exact absurd (occursAt_zero.1 hk) h
    | succ k => exact Nat.succ_le_succ (hleast (occursAt_succ.1 hk))

end

/-! ### The search -/

namespace TextHost

variable {needle cs : List Char} {i : ℕ}

/-- The search finds the first place. -/
theorem findPlace?_eq_some_iff : findPlace? needle cs = some i ↔ FirstAt needle cs i := by
  induction cs generalizing i with
  | nil =>
    rw [findPlace?]
    by_cases hneedle : needle = []
    · have hstart : FirstAt needle [] 0 :=
        ⟨occursAt_zero.2 (hneedle ▸ List.nil_prefix), fun k _ => Nat.zero_le k⟩
      rw [if_pos hneedle, Option.some.injEq]
      exact ⟨fun h => h ▸ hstart, hstart.unique⟩
    · rw [if_neg hneedle]
      refine iff_of_false (by simp) fun h => ?_
      obtain ⟨before, after, heq, -⟩ := h.1
      simp [hneedle] at heq
  | cons c cs ih =>
    rw [findPlace?]
    by_cases hprefix : needle <+: c :: cs
    · have hstart : FirstAt needle (c :: cs) 0 := ⟨occursAt_zero.2 hprefix, fun k _ => Nat.zero_le k⟩
      rw [if_pos (List.isPrefixOf_iff_prefix.2 hprefix), Option.some.injEq]
      exact ⟨fun h => h ▸ hstart, hstart.unique⟩
    · rw [if_neg (mt List.isPrefixOf_iff_prefix.1 hprefix), Option.map_eq_some_iff]
      cases i with
      | zero =>
        refine iff_of_false (by simp) fun h => ?_
        exact hprefix (occursAt_zero.1 h.1)
      | succ i => simp only [ih, firstAt_cons hprefix, Nat.add_right_cancel_iff, exists_eq_right]

/-- The number of the place that the search finds. -/
theorem exists_ofPlace_findPlace? (needle cs : List Char) :
    ∃ x, Value.ofPlace (findPlace? needle cs) = .number x ∧
      ((¬∃ k, OccursAt needle cs k) → x = -1.0) ∧
      ∀ k, FirstAt needle cs k → x = Float.ofNat k := by
  cases hplace : findPlace? needle cs with
  | none =>
    refine ⟨-1.0, rfl, fun _ => rfl, fun k hk => ?_⟩
    rw [findPlace?_eq_some_iff.2 hk] at hplace
    cases hplace
  | some i =>
    have hleast := findPlace?_eq_some_iff.1 hplace
    refine ⟨Float.ofNat i, rfl, fun hnone => absurd ⟨i, hleast.1⟩ hnone, fun k hk => ?_⟩
    rw [hleast.unique hk]

end TextHost

/-! ### Bytes -/

namespace Encoded

/-- The bytes of characters in UTF-8. -/
def bytes (cs : List Char) : List UInt8 :=
  cs.flatMap String.utf8EncodeChar

theorem toByteArray_bytes (s : String) : (bytes s.toList).toByteArray = s.toByteArray :=
  String.utf8Encode_toList

theorem length_bytes (s : String) : (bytes s.toList).length = s.utf8ByteSize := by
  rw [← List.size_toByteArray, toByteArray_bytes, String.size_toByteArray]

theorem bytes_append (cs ds : List Char) : bytes (cs ++ ds) = bytes cs ++ bytes ds :=
  List.flatMap_append

theorem bytes_eq_nil_iff {cs : List Char} : bytes cs = [] ↔ cs = [] := by
  cases cs with
  | nil => simp [bytes]
  | cons c cs => simp [bytes]

variable {s t : String} {b : ℕ}

/-- Bytes that are those of a text, and not of the empty one, start between two characters. -/
theorem exists_append_of_bytes (ht : t ≠ "") {x y : ByteArray}
    (h : s.toByteArray = x ++ (t.toByteArray ++ y)) :
    ∃ front back, s = front ++ back ∧ front.toByteArray = x := by
  have hsize : s.utf8ByteSize = x.size + (t.utf8ByteSize + y.size) := by
    rw [← String.size_toByteArray, h, ByteArray.size_append, ByteArray.size_append, String.size_toByteArray]
  have hextract : s.toByteArray.extract x.size (x.size + t.utf8ByteSize) = t.toByteArray := by
    have htail := ByteArray.extract_append_size_add (a := x) (b := t.toByteArray ++ y) (i := 0)
      (j := t.toByteArray.size)
    rw [Nat.add_zero, ByteArray.extract_append_size_left, ByteArray.extract_zero_size,
      String.size_toByteArray, ← h] at htail
    exact htail
  let start : String.Pos.Raw := ⟨x.size⟩
  let stop : String.Pos.Raw := ⟨x.size + t.utf8ByteSize⟩
  have hle : start ≤ stop := String.Pos.Raw.le_iff.2 (Nat.le_add_right ..)
  have hend : stop ≤ s.rawEndPos := by
    refine String.Pos.Raw.le_iff.2 ?_
    show x.size + t.utf8ByteSize ≤ s.utf8ByteSize
    omega
  rcases (String.Pos.Raw.isValidUTF8_extract_iff start stop hle hend).1 (hextract ▸ t.isValidUTF8) with
    hempty | ⟨hstart, -⟩
  · have hsame : x.size = x.size + t.utf8ByteSize := congrArg String.Pos.Raw.byteIdx hempty
    have hzero : t.utf8ByteSize = 0 := by omega
    exact absurd (String.utf8ByteSize_eq_zero_iff.1 hzero) ht
  · obtain ⟨front, back, rfl, hfront⟩ := String.Pos.Raw.isValid_iff_exists_append.1 hstart
    have hlength : x.size = front.utf8ByteSize := congrArg String.Pos.Raw.byteIdx hfront
    rw [String.toByteArray_append] at h
    refine ⟨front, back, rfl, ByteArray.append_inj_left h ?_⟩
    rw [String.size_toByteArray, hlength]

/-- Where the bytes of a text occur, the text itself occurs.  This does not hold of the empty text, which
also occurs between the bytes of one character. -/
theorem exists_of_occursAt (ht : t ≠ "") (h : OccursAt (bytes t.toList) (bytes s.toList) b) :
    ∃ before after, s.toList = before ++ t.toList ++ after ∧ (bytes before).length = b := by
  obtain ⟨x, y, heq, rfl⟩ := h
  have hbytes : s.toByteArray = x.toByteArray ++ (t.toByteArray ++ y.toByteArray) := by
    rw [← toByteArray_bytes, ← toByteArray_bytes, heq, List.toByteArray_append, List.toByteArray_append,
      ByteArray.append_assoc]
  obtain ⟨front, back, rfl, hfront⟩ := exists_append_of_bytes ht hbytes
  rw [String.toByteArray_append, hfront, ByteArray.append_right_inj] at hbytes
  have hprefix : t.toList <+: back.toList := by
    refine List.isPrefix_of_utf8Encode_append_eq_utf8Encode y.toByteArray ?_
    rw [String.utf8Encode_toList, String.utf8Encode_toList, hbytes]
  obtain ⟨after, hafter⟩ := hprefix
  refine ⟨front.toList, after, ?_, ?_⟩
  · rw [String.toList_append, ← hafter, List.append_assoc]
  · rw [length_bytes, ← String.size_toByteArray, hfront, List.size_toByteArray]

theorem occursAt_of_append {before after : List Char} (h : s.toList = before ++ t.toList ++ after) :
    OccursAt (bytes t.toList) (bytes s.toList) (bytes before).length :=
  ⟨bytes before, bytes after, by rw [h, bytes_append, bytes_append], rfl⟩

/-- The first place in bytes is the first place in characters, as fewer characters are fewer bytes. -/
theorem firstAt_length {before after : List Char} (h : s.toList = before ++ t.toList ++ after)
    (hleast : (bytes before).length ∈ lowerBounds {b | OccursAt (bytes t.toList) (bytes s.toList) b}) :
    FirstAt t.toList s.toList before.length := by
  refine ⟨⟨before, after, h, rfl⟩, ?_⟩
  rintro i ⟨before', after', h', rfl⟩
  have hfront : before <+: s.toList := ⟨t.toList ++ after, by rw [h, List.append_assoc]⟩
  have hfront' : before' <+: s.toList := ⟨t.toList ++ after', by rw [h', List.append_assoc]⟩
  rcases List.prefix_or_prefix_of_prefix hfront hfront' with hle | ⟨more, rfl⟩
  · exact hle.length_le
  · have hbytes := hleast (occursAt_of_append h')
    rw [bytes_append, List.length_append] at hbytes
    have hnone : (bytes more).length = 0 := by omega
    rw [bytes_eq_nil_iff.1 (List.length_eq_zero_iff.1 hnone), List.append_nil]

/-- At the first place where the bytes of a text occur, the text itself occurs for the first time. -/
theorem exists_of_firstAt (h : FirstAt (bytes t.toList) (bytes s.toList) b) :
    ∃ before after, s.toList = before ++ t.toList ++ after ∧ (bytes before).length = b ∧
      FirstAt t.toList s.toList before.length := by
  obtain ⟨hoccurs, hleast⟩ := h
  have hplace : ∃ before after, s.toList = before ++ t.toList ++ after ∧ (bytes before).length = b := by
    by_cases ht : t = ""
    · subst ht
      have hzero : b = 0 := Nat.le_zero.1 (hleast (occursAt_zero.2 List.nil_prefix))
      exact ⟨[], s.toList, rfl, hzero.symm⟩
    · exact exists_of_occursAt ht hoccurs
  obtain ⟨before, after, heq, rfl⟩ := hplace
  exact ⟨before, after, heq, rfl, firstAt_length heq hleast⟩

end Encoded

/-! ### Calls -/

/-- A natural number below `2 ^ 53` is clamped to itself. -/
theorem Number.saturated_ofNat {n : ℕ} (h : n < 2 ^ 53) : saturated (Float.ofNat n) = n := by
  have hvalue : value (Float.ofNat n) = ((n : ℤ) : ℚ) := value_ofNat h
  rw [saturated_of_isFinite (isFinite_ofNat h), hvalue, integerPart_intCast]
  omega

theorem Number.ofNat_ne_neg_one {n : ℕ} (h : n < 2 ^ 53) : Float.ofNat n ≠ -1.0 := by
  intro heq
  have hvalue : value (-1.0) = -1 := by decide +kernel
  have hnonneg : (0 : ℚ) ≤ n := Nat.cast_nonneg n
  rw [← heq, value_ofNat h] at hvalue
  rw [hvalue] at hnonneg
  exact absurd hnonneg (by decide)

namespace TextHost

theorem slice_natCast (cs : List Char) (k n : ℕ) : slice cs k n = (cs.drop k).take n := by
  unfold slice
  rw [if_neg (by omega)]
  rfl

section

variable {σ : Type} {table : HostTable σ} {ref : HostRef} {state : σ}
  (h : table.object? ref = some ⟨descriptor, state⟩) {s t : String}

include h

theorem call_indexOf :
    HostTable.interface.call ref "indexOf" [.text s, .text t] table =
      .ok (.ofPlace (findPlace? t.toList s.toList)) table := by
  rw [HostTable.call_reading h rfl rfl rfl]
  rfl

/-- At a place below `2 ^ 53`, `substr` takes as many characters as it is asked for. -/
theorem call_substr_place {k n : ℕ} (hk : k < 2 ^ 53) (hn : n < 2 ^ 53) :
    HostTable.interface.call ref "substr" [.text s, .number (Float.ofNat k), .number (Float.ofNat n)]
        table = .ok (.text (String.ofList ((s.toList.drop k).take n))) table := by
  rw [call_substr h, Number.saturated_ofNat hk, Number.saturated_ofNat hn, onChars, slice_natCast]

/-- The places of a text where `substr` takes another one are those where that one occurs. -/
theorem call_substr_eq_iff {k : ℕ} (hs : s.length < 2 ^ 53) (ht : t.length < 2 ^ 53)
    (hk : k ≤ s.length) :
    HostTable.interface.call ref "substr"
        [.text s, .number (Float.ofNat k), .number (Float.ofNat t.length)] table = .ok (.text t) table ↔
      OccursAt t.toList s.toList k := by
  rw [call_substr_place h (hk.trans_lt hs) ht, occursAt_iff_take, String.length_toList, String.length_toList,
    and_iff_right hk, EStateM.Result.ok.injEq, Value.text.injEq, and_iff_left rfl, ← String.toList_inj,
    String.toList_ofList]

/-- Before the first place of a text `substr` takes other texts. -/
theorem exists_call_substr_ne {i k : ℕ} (hs : s.length < 2 ^ 53) (ht : t.length < 2 ^ 53)
    (hfirst : FirstAt t.toList s.toList i) (hk : k < i) :
    ∃ u, u ≠ t ∧ HostTable.interface.call ref "substr"
      [.text s, .number (Float.ofNat k), .number (Float.ofNat t.length)] table = .ok (.text u) table := by
  have hle : i ≤ s.length := String.length_toList (s := s) ▸ hfirst.1.le_length
  have hcall := call_substr_place h (s := s) (k := k) (n := t.length) (by omega) ht
  refine ⟨_, ?_, hcall⟩
  intro heq
  rw [heq] at hcall
  exact absurd (hfirst.2 ((call_substr_eq_iff h hs ht (by omega)).1 hcall)) (not_le.2 hk)

end

/-- **`indexOf`, `substr` and `length` agree on characters.**  For texts shorter than `2 ^ 53` characters
`indexOf` answers `-1` if the second text does not occur in the first, and else its first place.  There
`substr` takes the second text, if it is asked for as many characters as `length` counts, and another one at
each place before.  A search in the bytes of the texts comes to the same: the bytes before the first place are
those of some characters, and `indexOf` answers how many they are. -/
theorem indexOf_exact {σ : Type} {table : HostTable σ} {ref : HostRef} {state : σ}
    (h : table.object? ref = some ⟨descriptor, state⟩) {s t : String} (hs : s.length < 2 ^ 53)
    (ht : t.length < 2 ^ 53) :
    ∃ found count : Float,
      HostTable.interface.call ref "indexOf" [.text s, .text t] table = .ok (.number found) table ∧
      HostTable.interface.call ref "length" [.text t] table = .ok (.number count) table ∧
      (found = -1.0 ↔ ¬∃ i, OccursAt t.toList s.toList i) ∧
      ((∃ i, OccursAt t.toList s.toList i) → ∃ i : ℕ, FirstAt t.toList s.toList i ∧
        found = Float.ofNat i ∧ Number.value found = i ∧
        HostTable.interface.call ref "substr" [.text s, .number found, .number count] table =
          .ok (.text t) table ∧
        ∀ k < i, ∃ u, u ≠ t ∧ HostTable.interface.call ref "substr"
          [.text s, .number (Float.ofNat k), .number count] table = .ok (.text u) table) ∧
      ((¬∃ b, OccursAt (Encoded.bytes t.toList) (Encoded.bytes s.toList) b) → found = -1.0) ∧
      ∀ b, FirstAt (Encoded.bytes t.toList) (Encoded.bytes s.toList) b →
        ∃ before after, s.toList = before ++ t.toList ++ after ∧ (Encoded.bytes before).length = b ∧
          found = Float.ofNat before.length := by
  obtain ⟨found, hfound, hnone, hfirst⟩ := exists_ofPlace_findPlace? t.toList s.toList
  have hplace : ∀ i, OccursAt t.toList s.toList i → i < 2 ^ 53 := fun i hi =>
    (String.length_toList (s := s) ▸ hi.le_length).trans_lt hs
  refine ⟨found, Float.ofNat t.length, ?_, call_length h t, ⟨?_, hnone⟩, fun hoccurs => ?_, fun hbytes => ?_,
    fun b hb => ?_⟩
  · rw [call_indexOf h, hfound]
  · rintro hfound hoccurs
    obtain ⟨i, hi⟩ := exists_firstAt hoccurs
    exact Number.ofNat_ne_neg_one (hplace i hi.1) ((hfirst i hi).symm.trans hfound)
  · obtain ⟨i, hi⟩ := exists_firstAt hoccurs
    have hlt := hplace i hi.1
    obtain rfl := hfirst i hi
    refine ⟨i, hi, rfl, Number.value_ofNat hlt, ?_, fun k hk => exists_call_substr_ne h hs ht hi hk⟩
    exact (call_substr_eq_iff h hs ht (String.length_toList (s := s) ▸ hi.1.le_length)).2 hi.1
  · refine hnone ?_
    rintro ⟨_, before, after, heq, rfl⟩
    exact hbytes ⟨_, Encoded.occursAt_of_append heq⟩
  · obtain ⟨before, after, heq, hlength, hleast⟩ := Encoded.exists_of_firstAt hb
    exact ⟨before, after, heq, hlength, hfirst _ hleast⟩

/-- `né` occurs in `é😀né` after two characters, which are six bytes, and `😀` does not occur in `né`. -/
theorem indexOf_exact_accents :
    FirstAt "né".toList "é😀né".toList 2 ∧
    HostTable.interface.call ⟨0, "String"⟩ "indexOf" [.text "é😀né", .text "né"]
      (⟨[⟨descriptor, ()⟩]⟩ : HostTable Unit) = .ok (.number 2.0) ⟨[⟨descriptor, ()⟩]⟩ ∧
    HostTable.interface.call ⟨0, "String"⟩ "substr" [.text "é😀né", .number 2.0, .number 2.0]
      (⟨[⟨descriptor, ()⟩]⟩ : HostTable Unit) = .ok (.text "né") ⟨[⟨descriptor, ()⟩]⟩ ∧
    HostTable.interface.call ⟨0, "String"⟩ "indexOf" [.text "né", .text "😀"]
      (⟨[⟨descriptor, ()⟩]⟩ : HostTable Unit) = .ok (.number (-1.0)) ⟨[⟨descriptor, ()⟩]⟩ := by
  have hfirst : FirstAt "né".toList "é😀né".toList 2 := findPlace?_eq_some_iff.1 (by decide +kernel)
  have htwo : Float.ofNat 2 = 2.0 := by decide +kernel
  have hlong : "é😀né".length < 2 ^ 53 := by decide +kernel
  have hshort : "né".length < 2 ^ 53 := by decide +kernel
  have hsingle : "😀".length < 2 ^ 53 := by decide +kernel
  have hnone : ¬∃ i, OccursAt "😀".toList "né".toList i := by
    intro hoccurs
    obtain ⟨i, hi⟩ := exists_firstAt hoccurs
    have hmiss : findPlace? "😀".toList "né".toList = none := by decide +kernel
    rw [findPlace?_eq_some_iff.2 hi] at hmiss
    cases hmiss
  obtain ⟨found, count, hindex, hcount, -, hoccurs, -⟩ :=
    @indexOf_exact Unit ⟨[⟨descriptor, ()⟩]⟩ ⟨0, "String"⟩ () rfl "é😀né" "né" hlong hshort
  obtain ⟨i, hi, rfl, -, hsubstr, -⟩ := hoccurs ⟨2, hfirst.1⟩
  obtain rfl := hfirst.unique hi
  have hlength : count = Float.ofNat 2 := by
    have hcall := @call_length Unit ⟨[⟨descriptor, ()⟩]⟩ ⟨0, "String"⟩ () rfl "né"
    injection hcount.symm.trans hcall with hvalue _
    have hcharacters : "né".length = 2 := by decide +kernel
    rw [← hcharacters]
    exact Value.number.inj hvalue
  obtain ⟨missing, _, hmissing, -, hiff, -⟩ :=
    @indexOf_exact Unit ⟨[⟨descriptor, ()⟩]⟩ ⟨0, "String"⟩ () rfl "né" "😀" hshort hsingle
  rw [hiff.2 hnone] at hmissing
  rw [hlength, htwo] at hsubstr
  rw [htwo] at hindex
  exact ⟨hfirst, hindex, hsubstr, hmissing⟩

end TextHost

end HostExpr
