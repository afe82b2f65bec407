import HostExpr.Value
import HostExpr.Proofs.Grammar

/-!
# Values inside a value

* `Value.inside`: the values directly inside a value;
* `Value.induction_inside`: induction over them;
* `Value.subvalues`: a value and all values inside it, at any depth;
* `Value.KeysDistinct`: the keys of all maps inside a value are distinct, with `Value.KeysDistinct.of_parts`
  and `Value.KeysDistinct.of_inside`.
-/

namespace HostExpr

namespace Value

/-- The values directly inside a value: the items of a list, and the values under the keys of a
map. -/
def inside : Value → List Value
  | list items => items
  | map entries => entries.map Prod.snd
  | _ => []

theorem sizeOf_lt_of_mem_inside {w v : Value} (h : w ∈ v.inside) : sizeOf w < sizeOf v := by
  cases v with
  | list items =>
    have hlt : sizeOf w < sizeOf items := List.sizeOf_lt_of_mem h
    simp only [list.sizeOf_spec]
    omega
  | map entries =>
    obtain ⟨t, ht, rfl⟩ := List.mem_map.1 h
    have hlt := sizeOf_snd_lt_of_mem ht
    simp only [map.sizeOf_spec]
    omega
  | _ => exact absurd h List.not_mem_nil

/-- A property that a value has as soon as the values directly inside have it. -/
theorem induction_inside {P : Value → Prop} (h : ∀ v, (∀ w ∈ v.inside, P w) → P v) (v : Value) : P v :=
  h v fun w _ => induction_inside h w
  termination_by sizeOf v
  decreasing_by exact sizeOf_lt_of_mem_inside ‹_›

/-- A value and all values inside it, at any depth. -/
def subvalues (v : Value) : List Value :=
  v :: v.inside.attach.flatMap fun w => subvalues w.1
  termination_by sizeOf v
  decreasing_by exact sizeOf_lt_of_mem_inside w.2

theorem subvalues_eq (v : Value) : v.subvalues = v :: v.inside.flatMap subvalues := by
  rw [subvalues, List.flatMap_subtype (g := subvalues) (fun _ _ => rfl), List.unattach_attach]

theorem self_mem_subvalues (v : Value) : v ∈ v.subvalues := by
  rw [subvalues_eq]
  exact List.mem_cons_self

theorem mem_subvalues_of_inside {u v w : Value} (hu : u ∈ v.inside) (hw : w ∈ u.subvalues) :
    w ∈ v.subvalues := by
  rw [subvalues_eq]
  exact List.mem_cons_of_mem _ (List.mem_flatMap.2 ⟨u, hu, hw⟩)

/-- The keys of each map inside a value are distinct, as they are in maps whose keys were bound one after
another (`Entries.nodup_keys_ofPairs`).  The values of documents are such, and runs come to no others
(`Setup.KeysDistinct.run`). -/
def KeysDistinct (v : Value) : Prop :=
  ∀ entries, map entries ∈ v.subvalues → (Entries.keys entries).Nodup

/-- The keys of a value are distinct if its own are and those of the values directly inside. -/
theorem KeysDistinct.of_parts {v : Value} (hown : ∀ entries, v = map entries → (Entries.keys entries).Nodup)
    (hinside : ∀ w ∈ v.inside, w.KeysDistinct) : v.KeysDistinct := by
  intro entries h
  rw [subvalues_eq, List.mem_cons, List.mem_flatMap] at h
  rcases h with h | ⟨w, hw, h⟩
  · exact hown entries h.symm
  · exact hinside w hw entries h

theorem KeysDistinct.of_inside {v w : Value} (h : v.KeysDistinct) (hw : w ∈ v.inside) :
    w.KeysDistinct :=
  fun entries hmem => h entries (mem_subvalues_of_inside hw hmem)

theorem KeysDistinct.nodup {entries : List (String × Value)} (h : (map entries).KeysDistinct) :
    (Entries.keys entries).Nodup :=
  h entries (self_mem_subvalues _)

theorem KeysDistinct.of_mem {entries : List (String × Value)} {t : String × Value}
    (h : (map entries).KeysDistinct) (ht : t ∈ entries) : t.2.KeysDistinct :=
  h.of_inside (List.mem_map_of_mem ht)

end Value

end HostExpr
