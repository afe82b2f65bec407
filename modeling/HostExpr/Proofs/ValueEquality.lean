import HostExpr.Proofs.DoubleValue
import HostExpr.Proofs.Subvalues

/-!
# Equality of values

The equality of values is an equivalence on the values without NaN.  It goes by the kinds of the values
and by the values inside; the order of the entries of a map does not matter, as long as its keys are
distinct, which runs keep them (`Setup.KeysDistinct.run`).

* `Value.EqualParts`: two values of one kind with equal contents, and `Value.beq_iff`: these are the equal
  ones;
* `Value.mem_keys_of_equal`: a map with distinct keys has all keys of another with as many entries if each
  of its entries has an equal one there;
* `Value.beq_symm`, `Value.beq_trans`, `Value.beq_self_iff`: symmetry, transitivity, and which values equal
  themselves;
* `Value.beq_map_iff_find?`, `Value.beq_map_perm`: maps are compared key by key;
* `Value.beq_laws`: all of these, with what kinds and host objects have to do with equality.
-/

namespace HostExpr

namespace Value

/-! ### Contents -/

/-- Two values of one kind whose contents are equal: the items of lists one by one, the entries of maps by
their keys, host objects by which objects they are. -/
inductive EqualParts : Value → Value → Prop
  | null : EqualParts null null
  | boolean (b : Bool) : EqualParts (boolean b) (boolean b)
  | number {x y : Float} : (x == y) = true → EqualParts (number x) (number y)
  | text (s : String) : EqualParts (text s) (text s)
  | list {xs ys : List Value} :
      List.Forall₂ (fun x y => (x == y) = true) xs ys → EqualParts (list xs) (list ys)
  | map {es fs : List (String × Value)} : es.length = fs.length →
      (∀ t ∈ es, ∃ y, Entries.find? t.1 fs = some y ∧ (t.2 == y) = true) →
      EqualParts (map es) (map fs)
  | host {r s : HostRef} : r.id = s.id → EqualParts (host r) (host s)

theorem beqItems_iff {xs ys : List Value} :
    beqItems xs ys = true ↔ List.Forall₂ (fun x y => (x == y) = true) xs ys := by
  induction xs generalizing ys with
  | nil => cases ys <;> simp [beqItems]
  | cons x xs ih =>
    cases ys with
    | nil => simp [beqItems]
    | cons y ys =>
      rw [beqItems, Bool.and_eq_true, ih, List.forall₂_cons]
      rfl

theorem beqEntries_iff {es fs : List (String × Value)} :
    beqEntries es fs = true ↔ ∀ t ∈ es, ∃ y, Entries.find? t.1 fs = some y ∧ (t.2 == y) = true := by
  induction es with
  | nil => simp [beqEntries]
  | cons t es ih =>
    obtain ⟨key, x⟩ := t
    rw [beqEntries, Bool.and_eq_true, ih, List.forall_mem_cons]
    refine and_congr_left fun _ => ?_
    cases Entries.find? key fs with
    | none => simp
    | some y =>
      simp only [Option.some.injEq, exists_eq_left']
      rfl

/-- Two values are equal if they are of one kind and their contents are equal. -/
theorem beq_iff {v w : Value} : (v == w) = true ↔ EqualParts v w := by
  constructor
  · intro h
    replace h : beq v w = true := h
    fun_cases beq v w with
    | case1 => exact .null
    | case2 a b =>
      rw [beq, beq_iff_eq] at h
      exact h ▸ .boolean a
    | case3 x y =>
      rw [beq] at h
      exact .number h
    | case4 s t =>
      rw [beq, beq_iff_eq] at h
      exact h ▸ .text s
    | case5 xs ys =>
      rw [beq] at h
      exact .list (beqItems_iff.1 h)
    | case6 es fs =>
      rw [beq, Bool.and_eq_true, beq_iff_eq] at h
      exact .map h.1 (beqEntries_iff.1 h.2)
    | case7 r s =>
      rw [beq, beq_iff_eq] at h
      exact .host h
    | case8 =>
      -- no two values of one kind are left
      rw [beq] at h
      · exact absurd h Bool.false_ne_true
      all_goals assumption
  · intro h
    cases h with
    | null => rfl
    | boolean b => exact beq_self_eq_true b
    | number h => exact h
    | text s => exact beq_self_eq_true s
    | list h => exact beqItems_iff.2 h
    | map hlength h =>
      show (_ && _) = true
      rw [Bool.and_eq_true, beq_iff_eq]
      exact ⟨hlength, beqEntries_iff.2 h⟩
    | @host r s h =>
      show (r.id == s.id) = true
      rw [beq_iff_eq]
      exact h

end Value

/-! ### Lists and entries -/

section Related

variable {α : Type} {R : α → α → Prop}

/-- Lists related item by item are related the other way round if their items are. -/
theorem forall₂_symm_mem {xs ys : List α} (h : List.Forall₂ R xs ys)
    (hsymm : ∀ x ∈ xs, ∀ y ∈ ys, R x y → R y x) : List.Forall₂ R ys xs := by
  induction h with
  | nil => exact .nil
  | @cons x y xs ys hxy _ ih =>
    refine .cons (hsymm x List.mem_cons_self y List.mem_cons_self hxy) (ih fun u hu v hv => ?_)
    exact hsymm u (List.mem_cons_of_mem _ hu) v (List.mem_cons_of_mem _ hv)

/-- Lists related item by item to the same list are so to each other, if the relation is transitive from
the items of the first. -/
theorem forall₂_trans_mem {xs ys zs : List α} (h : List.Forall₂ R xs ys) (h' : List.Forall₂ R ys zs)
    (htrans : ∀ x ∈ xs, ∀ {y z}, R x y → R y z → R x z) : List.Forall₂ R xs zs := by
  induction h generalizing zs with
  | nil => exact h'
  | @cons x y xs ys hxy _ ih =>
    cases h' with
    | cons hyz h' =>
      refine .cons (htrans x List.mem_cons_self hxy hyz) (ih h' fun u hu => ?_)
      exact htrans u (List.mem_cons_of_mem _ hu)

end Related

namespace Value

/-! ### Maps -/

/-- Of two maps with as many entries, the first with distinct keys, the second has no other keys than the
first if each entry of the first has an equal one under its key in the second. -/
theorem mem_keys_of_equal {es fs : List (String × Value)} (hes : (Entries.keys es).Nodup)
    (hlength : es.length = fs.length)
    (h : ∀ t ∈ es, ∃ y, Entries.find? t.1 fs = some y ∧ (t.2 == y) = true) {key : String}
    (hkey : key ∈ Entries.keys fs) : key ∈ Entries.keys es := by
  have hsub : ∀ k ∈ Entries.keys es, k ∈ Entries.keys fs := by
    intro k hk
    obtain ⟨t, ht, rfl⟩ := List.mem_map.1 hk
    obtain ⟨y, hy, -⟩ := h t ht
    exact List.mem_map.2 ⟨_, Entries.mem_of_find? hy, rfl⟩
  -- distinct keys, as many as the second map has entries, are all of its keys
  have hperm : (Entries.keys es).Perm (Entries.keys fs) := by
    refine (List.subperm_of_subset hes hsub).perm_of_length_le ?_
    rw [Entries.length_keys, Entries.length_keys, hlength]
  exact hperm.mem_iff.2 hkey

/-- Maps are equal if they have the same keys with equal values. -/
theorem beq_map_iff_find? {es fs : List (String × Value)} (hes : (Entries.keys es).Nodup)
    (hfs : (Entries.keys fs).Nodup) :
    (map es == map fs) = true ↔
      ∀ key, Option.Rel (fun x y => (x == y) = true) (Entries.find? key es) (Entries.find? key fs) := by
  rw [beq_iff]
  constructor
  · intro heq key
    cases heq with
    | map hlength h =>
      cases hx : Entries.find? key es with
      | some x =>
        obtain ⟨y, hy, hxy⟩ := h _ (Entries.mem_of_find? hx)
        rw [hy]
        exact .some hxy
      | none =>
        have hnone : Entries.find? key fs = none := by
          rw [Entries.find?_eq_none_iff] at hx ⊢
          exact mt (mem_keys_of_equal hes hlength h) hx
        rw [hnone]
        exact .none
  · intro h
    have hkeys : (Entries.keys es).Perm (Entries.keys fs) := by
      refine (List.perm_ext_iff_of_nodup hes hfs).2 fun key => ?_
      have hrel := h key
      rw [← not_iff_not, ← Entries.find?_eq_none_iff, ← Entries.find?_eq_none_iff]
      generalize Entries.find? key es = x, Entries.find? key fs = y at hrel ⊢
      cases hrel with
      | some => simp
      | none => simp
    refine .map ?_ fun t ht => ?_
    · rw [← Entries.length_keys, hkeys.length_eq, Entries.length_keys]
    · have hx : Entries.find? t.1 es = some t.2 := (Entries.find?_eq_some_iff hes).2 ht
      have hrel := h t.1
      rw [hx] at hrel
      generalize Entries.find? t.1 fs = y at hrel ⊢
      cases hrel with
      | some hxy => exact ⟨_, rfl, hxy⟩

/-- The order of the entries does not matter for whether maps are equal. -/
theorem beq_map_perm {es es' fs fs' : List (String × Value)} (hes : (Entries.keys es).Nodup)
    (hfs : (Entries.keys fs).Nodup) (h : es.Perm es') (h' : fs.Perm fs') :
    (map es == map fs) = (map es' == map fs') := by
  have hes' : (Entries.keys es').Nodup := (h.map Prod.fst).nodup_iff.1 hes
  have hfs' : (Entries.keys fs').Nodup := (h'.map Prod.fst).nodup_iff.1 hfs
  rw [Bool.eq_iff_iff, beq_map_iff_find? hes hfs, beq_map_iff_find? hes' hfs']
  refine forall_congr' fun key => ?_
  rw [Entries.find?_perm h hes, Entries.find?_perm h' hfs]

/-! ### Equivalence -/

theorem kind_eq_of_beq {v w : Value} (h : (v == w) = true) : v.kind = w.kind := by
  cases beq_iff.1 h <;> rfl

theorem beq_trans {u v w : Value} (h : (u == v) = true) (h' : (v == w) = true) : (u == w) = true := by
  induction u using induction_inside generalizing v w with
  | h u ih =>
    rw [beq_iff] at h h' ⊢
    cases h with
    | null => exact h'
    | boolean b => exact h'
    | text s => exact h'
    | number h =>
      cases h' with
      | number h' => exact .number (Number.beq_trans h h')
    | host h =>
      cases h' with
      | host h' => exact .host (h.trans h')
    | list h =>
      cases h' with
      | list h' => exact .list (forall₂_trans_mem h h' fun x hx => ih x hx)
    | @map es fs hlength h =>
      cases h' with
      | @map _ gs hlength' h' =>
        refine .map (hlength.trans hlength') fun t ht => ?_
        obtain ⟨y, hy, hxy⟩ := h t ht
        obtain ⟨z, hz, hyz⟩ := h' _ (Entries.mem_of_find? hy)
        exact ⟨z, hz, ih _ (List.mem_map_of_mem ht) hxy hyz⟩

theorem beq_symm {v w : Value} (hv : v.KeysDistinct) (hw : w.KeysDistinct) (h : (v == w) = true) :
    (w == v) = true := by
  induction v using induction_inside generalizing w with
  | h v ih =>
    rw [beq_iff] at h ⊢
    cases h with
    | null => exact .null
    | boolean b => exact .boolean b
    | text s => exact .text s
    | number h => exact .number (Number.beq_symm h)
    | host h => exact .host h.symm
    | list h =>
      refine .list (forall₂_symm_mem h fun x hx y hy hxy => ?_)
      exact ih x hx (hv.of_inside hx) (hw.of_inside hy) hxy
    | @map es fs hlength h =>
      refine .map hlength.symm fun u hu => ?_
      obtain ⟨t, ht, htu⟩ :=
        List.mem_map.1 (mem_keys_of_equal hv.nodup hlength h (List.mem_map_of_mem hu))
      obtain ⟨y, hy, hxy⟩ := h t ht
      rw [htu, (Entries.find?_eq_some_iff hw.nodup).2 hu] at hy
      obtain rfl := Option.some.inj hy
      refine ⟨t.2, ?_, ih t.2 (List.mem_map_of_mem ht) (hv.of_mem ht) (hw.of_mem hu) hxy⟩
      rw [← htu, Entries.find?_eq_some_iff hv.nodup]
      exact ht

/-- Lists and maps equal themselves if the values directly inside do. -/
theorem beq_self_iff_inside {v : Value} (hv : v.KeysDistinct) (hnumber : v.kind ≠ .number) :
    (v == v) = true ↔ ∀ w ∈ v.inside, (w == w) = true := by
  cases v with
  | number x => exact absurd rfl hnumber
  | null => exact iff_of_true (beq_iff.2 .null) (List.forall_mem_nil _)
  | boolean b => exact iff_of_true (beq_iff.2 (.boolean b)) (List.forall_mem_nil _)
  | text s => exact iff_of_true (beq_iff.2 (.text s)) (List.forall_mem_nil _)
  | host r => exact iff_of_true (beq_iff.2 (.host rfl)) (List.forall_mem_nil _)
  | list items =>
    constructor
    · intro h
      cases beq_iff.1 h with
      | list h => exact List.forall₂_same.1 h
    · exact fun h => beq_iff.2 (.list (List.forall₂_same.2 h))
  | map entries =>
    have hfind : ∀ t ∈ entries, Entries.find? t.1 entries = some t.2 :=
      fun t ht => (Entries.find?_eq_some_iff hv.nodup).2 ht
    constructor
    · intro h w hw
      obtain ⟨t, ht, rfl⟩ := List.mem_map.1 hw
      cases beq_iff.1 h with
      | map _ h =>
        obtain ⟨y, hy, hxy⟩ := h t ht
        rw [hfind t ht] at hy
        exact Option.some.inj hy ▸ hxy
    · intro h
      exact beq_iff.2 (.map rfl fun t ht => ⟨t.2, hfind t ht, h _ (List.mem_map_of_mem ht)⟩)

/-- The values that equal themselves are those without NaN inside. -/
theorem beq_self_iff {v : Value} (hv : v.KeysDistinct) :
    (v == v) = true ↔ ∀ x, number x ∈ v.subvalues → x.isNaN = false := by
  induction v using induction_inside with
  | h v ih =>
    by_cases hkind : v.kind = .number
    · cases v with
      | number x =>
        have hmem : ∀ y, number y ∈ (number x).subvalues ↔ y = x := by
          simp [subvalues_eq, inside]
        simp only [hmem, forall_eq]
        exact Number.beq_self_iff
      | _ => cases hkind
    · have hmem : ∀ x, number x ∈ v.subvalues ↔ ∃ w ∈ v.inside, number x ∈ w.subvalues := by
        intro x
        rw [subvalues_eq, List.mem_cons, List.mem_flatMap]
        exact or_iff_right fun h => hkind (h ▸ rfl)
      have hinside : ∀ w ∈ v.inside,
          ((w == w) = true ↔ ∀ x, number x ∈ w.subvalues → x.isNaN = false) :=
        fun w hw => ih w hw (hv.of_inside hw)
      rw [beq_self_iff_inside hv hkind, forall₂_congr hinside]
      constructor
      · intro h x hx
        obtain ⟨w, hw, hxw⟩ := (hmem x).1 hx
        exact h w hw x hxw
      · exact fun h w hw x hxw => h x ((hmem x).2 ⟨w, hw, hxw⟩)

/-- Equality is symmetric and transitive, and the values that equal themselves are those without NaN inside.
Only values of one kind are equal; host objects are equal if they are the same object, and maps if they have
as many entries and equal values under every key, in whatever order the entries stand. -/
theorem beq_laws (a b c : Value) (ha : a.KeysDistinct) (hb : b.KeysDistinct) :
    ((a == b) = true → (b == a) = true) ∧
    ((a == b) = true → (b == c) = true → (a == c) = true) ∧
    ((a == a) = true ↔ ∀ x, number x ∈ a.subvalues → x.isNaN = false) ∧
    ((a == b) = true → a.kind = b.kind) ∧
    (∀ r, a = host r → ((a == b) = true ↔ ∃ s, b = host s ∧ r.id = s.id)) ∧
    (∀ es fs, a = map es → b = map fs →
      ((a == b) = true ↔ es.length = fs.length ∧ ∀ key,
        Option.Rel (fun x y => (x == y) = true) (Entries.find? key es) (Entries.find? key fs)) ∧
      ∀ es' fs', es.Perm es' → fs.Perm fs' → (map es' == map fs') = (a == b)) := by
  refine ⟨beq_symm ha hb, beq_trans, beq_self_iff ha, kind_eq_of_beq, ?_, ?_⟩
  · rintro r rfl
    constructor
    · intro h
      cases beq_iff.1 h with
      | host hid => exact ⟨_, rfl, hid⟩
    · rintro ⟨s, rfl, h⟩
      exact beq_iff.2 (.host h)
  · rintro es fs rfl rfl
    refine ⟨?_, fun es' fs' h h' => (beq_map_perm ha.nodup hb.nodup h h').symm⟩
    constructor
    · intro h
      refine ⟨?_, (beq_map_iff_find? ha.nodup hb.nodup).1 h⟩
      cases beq_iff.1 h with
      | map hlength _ => exact hlength
    · exact fun h => (beq_map_iff_find? ha.nodup hb.nodup).2 h.2

/-- Two maps with a list and a host object inside whose entries stand in opposite order. -/
theorem beq_reordered :
    (map [("k", list [number 1.5, text "t"]), ("h", host ⟨3, "Array"⟩)] ==
      map [("h", host ⟨3, "Array"⟩), ("k", list [number 1.5, text "t"])]) = true ∧
    (map [("h", host ⟨3, "Array"⟩), ("k", list [number 1.5, text "t"])] ==
      map [("k", list [number 1.5, text "t"]), ("h", host ⟨3, "Array"⟩)]) = true := by
  have hnan : (1.5 : Float).isNaN = false := by decide +kernel
  have hkeys : (map [("k", list [number 1.5, text "t"]), ("h", host ⟨3, "Array"⟩)]).KeysDistinct := by
    intro entries h
    simp [subvalues_eq, inside] at h
    subst h
    decide
  have hkeys' : (map [("h", host ⟨3, "Array"⟩), ("k", list [number 1.5, text "t"])]).KeysDistinct := by
    intro entries h
    simp [subvalues_eq, inside] at h
    subst h
    decide
  obtain ⟨hsymm, -, hself, -, -, hmap⟩ := beq_laws _ _ null hkeys hkeys'
  have heq := hself.2 fun x hx => by
    simp [subvalues_eq, inside] at hx
    exact hx ▸ hnan
  rw [(hmap _ _ rfl rfl).2 _ _ (.refl _) (.swap ..)] at heq
  exact ⟨heq, hsymm heq⟩

end Value

end HostExpr
