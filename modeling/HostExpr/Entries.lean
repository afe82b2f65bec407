/-!
# Ordered entries

A map is the list of its entries in the order in which their keys were first bound.

* `Entries.find?`: the value under a key;
* `Entries.insert`: binds a key, at its place if it has one, else at the end;
* `Entries.ofPairs`: binds the keys of a list of pairs one after another.

Shown here: a key that was just bound is found with its value (`Entries.find?_insert_self`), every
other key is found as before (`Entries.find?_insert_of_ne`), the keys keep their order
(`Entries.keys_insert`), nothing is bound but what was given (`Entries.mem_of_mem_ofPairs`), the keys
stay distinct (`Entries.nodup_keys_ofPairs`), and pairs with distinct keys are entries as they are
(`Entries.ofPairs_of_nodup`).  Among distinct keys the order does not matter for what is found
(`Entries.find?_perm`).
-/

namespace HostExpr.Entries

variable {α : Type}

/-- The value under a key. -/
def find? (key : String) : List (String × α) → Option α
  | [] => none
  | (k, x) :: entries => if k = key then some x else find? key entries

/-- Binds a key: its value is replaced where the key stands, or the key is added at the end. -/
def insert (key : String) (x : α) : List (String × α) → List (String × α)
  | [] => [(key, x)]
  | (k, y) :: entries => if k = key then (k, x) :: entries else (k, y) :: insert key x entries

/-- The entries after binding the keys of a list of pairs in order. -/
def ofPairs (pairs : List (String × α)) : List (String × α) :=
  pairs.foldl (fun entries pair => insert pair.1 pair.2 entries) []

/-- The keys, in order. -/
def keys (entries : List (String × α)) : List String :=
  entries.map Prod.fst

theorem keys_cons (k : String) (x : α) (entries : List (String × α)) :
    keys ((k, x) :: entries) = k :: keys entries :=
  rfl

theorem length_keys (entries : List (String × α)) : (keys entries).length = entries.length :=
  List.length_map _

theorem find?_insert_self (key : String) (x : α) (entries : List (String × α)) :
    find? key (insert key x entries) = some x := by
  fun_induction insert key x entries <;> simp_all [find?]

theorem find?_insert_of_ne {key other : String} (h : other ≠ key) (x : α)
    (entries : List (String × α)) :
    find? other (insert key x entries) = find? other entries := by
  fun_induction insert key x entries <;> simp_all [find?, Ne.symm h]

theorem mem_of_mem_insert {key : String} {x : α} {entries : List (String × α)} {t : String × α}
    (h : t ∈ insert key x entries) : t = (key, x) ∨ t ∈ entries := by
  fun_induction insert key x entries <;> grind

/-- Binding pairs one after another adds no entry but these pairs. -/
theorem mem_of_mem_ofPairs {pairs : List (String × α)} {t : String × α} (h : t ∈ ofPairs pairs) :
    t ∈ pairs := by
  have hfold : ∀ entries : List (String × α),
      t ∈ pairs.foldl (fun entries pair => insert pair.1 pair.2 entries) entries →
        t ∈ entries ∨ t ∈ pairs := by
    clear h
    induction pairs with
    | nil => simp
    | cons pair pairs ih =>
      intro entries h
      rcases ih _ h with hmem | hmem
      · rcases mem_of_mem_insert hmem with rfl | hmem
        · exact .inr (List.mem_cons_self ..)
        · exact .inl hmem
      · exact .inr (List.mem_cons_of_mem _ hmem)
  exact (hfold [] h).resolve_left List.not_mem_nil

theorem mem_of_find? {key : String} {x : α} {entries : List (String × α)}
    (h : find? key entries = some x) : (key, x) ∈ entries := by
  fun_induction find? key entries <;> grind

theorem find?_eq_none_iff {key : String} {entries : List (String × α)} :
    find? key entries = none ↔ key ∉ keys entries := by
  fun_induction find? key entries <;> simp_all [keys, eq_comm]

/-- If the keys are distinct, the value under a key is the one of the entry with that key. -/
theorem find?_eq_some_iff {key : String} {x : α} {entries : List (String × α)}
    (h : (keys entries).Nodup) : find? key entries = some x ↔ (key, x) ∈ entries := by
  refine ⟨mem_of_find?, fun hmem => ?_⟩
  induction entries with
  | nil => exact absurd hmem List.not_mem_nil
  | cons t ts ih =>
    obtain ⟨k, y⟩ := t
    rw [keys_cons, List.nodup_cons] at h
    rcases List.mem_cons.1 hmem with heq | htail
    · obtain ⟨rfl, rfl⟩ := Prod.mk.inj heq
      exact if_pos rfl
    · have hne : k ≠ key := by
        rintro rfl
        exact h.1 (List.mem_map_of_mem htail)
      rw [find?, if_neg hne, ih h.2 htail]

/-- If the keys are distinct, their order does not matter for what is found. -/
theorem find?_perm {key : String} {entries others : List (String × α)} (hperm : entries.Perm others)
    (h : (keys entries).Nodup) : find? key entries = find? key others := by
  have h' : (keys others).Nodup := (hperm.map Prod.fst).nodup_iff.1 h
  refine Option.ext fun x => ?_
  rw [find?_eq_some_iff h, find?_eq_some_iff h', hperm.mem_iff]

theorem keys_insert (key : String) (x : α) (entries : List (String × α)) :
    keys (insert key x entries) =
      if key ∈ keys entries then keys entries else keys entries ++ [key] := by
  induction entries with
  | nil => simp [keys, insert]
  | cons entry entries ih =>
    obtain ⟨k, y⟩ := entry
    by_cases h : k = key
    · simp [insert, keys, h]
    · have hmem : key ∈ keys ((k, y) :: entries) ↔ key ∈ keys entries := by
        rw [keys_cons, List.mem_cons]
        exact or_iff_right fun e => h e.symm
      rw [insert, if_neg h, keys_cons, ih]
      by_cases hk : key ∈ keys entries
      · rw [if_pos hk, if_pos (hmem.2 hk), keys_cons]
      · rw [if_neg hk, if_neg (mt hmem.1 hk), keys_cons, List.cons_append]

theorem insert_of_not_mem {key : String} {entries : List (String × α)} (h : key ∉ keys entries)
    (x : α) : insert key x entries = entries ++ [(key, x)] := by
  induction entries with
  | nil => rfl
  | cons t ts ih =>
    obtain ⟨k, y⟩ := t
    rw [keys_cons, List.mem_cons, not_or] at h
    rw [insert, if_neg (Ne.symm h.1), ih h.2, List.cons_append]

theorem nodup_keys_insert {entries : List (String × α)} (h : (keys entries).Nodup) (key : String)
    (x : α) : (keys (insert key x entries)).Nodup := by
  rw [keys_insert]
  split
  · exact h
  · next hnew =>
    refine List.nodup_append.2 ⟨h, List.pairwise_singleton _ _, fun k hk k' hk' => ?_⟩
    rintro rfl
    exact hnew (List.mem_singleton.1 hk' ▸ hk)

/-- Binding keys one after another keeps them distinct. -/
theorem nodup_keys_ofPairs (pairs : List (String × α)) : (keys (ofPairs pairs)).Nodup := by
  have hfold : ∀ entries : List (String × α), (keys entries).Nodup →
      (keys (pairs.foldl (fun entries pair => insert pair.1 pair.2 entries) entries)).Nodup := by
    induction pairs with
    | nil => exact fun _ h => h
    | cons t ts ih => exact fun entries h => ih _ (nodup_keys_insert h t.1 t.2)
  exact hfold [] List.nodup_nil

/-- Pairs with distinct keys are entries as they are. -/
theorem ofPairs_of_nodup {pairs : List (String × α)} (h : (keys pairs).Nodup) :
    ofPairs pairs = pairs := by
  have hfold : ∀ entries : List (String × α), (keys (entries ++ pairs)).Nodup →
      pairs.foldl (fun entries pair => insert pair.1 pair.2 entries) entries = entries ++ pairs := by
    clear h
    induction pairs with
    | nil => exact fun entries _ => (List.append_nil entries).symm
    | cons t ts ih =>
      intro entries h
      have hnew : t.1 ∉ keys entries := by
        intro hmem
        rw [keys, List.map_append, List.nodup_append] at h
        exact h.2.2 _ hmem _ (List.mem_map_of_mem List.mem_cons_self) rfl
      rw [List.foldl_cons, insert_of_not_mem hnew, ih, List.append_assoc]
      · rfl
      · rw [List.append_assoc]
        exact h
  exact hfold [] h

theorem keys_map {β : Type} (f : α → β) (entries : List (String × α)) :
    keys (entries.map fun t => (t.1, f t.2)) = keys entries := by
  simp [keys]

end HostExpr.Entries
