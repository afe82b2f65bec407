import HostExpr.Proofs.Guarded

/-!
# References inside values

Which host objects a value refers to.

* `Value.refs`: the references inside a value, at any depth of its lists and maps;
* `Value.Within`: a value whose references all belong to a set of host objects;
* `Value.hereditary_within`: to be within a set is hereditary, so that guarded host objects of a set lead
  to no others (`Guarded.run_keeps`).

The set is any predicate on references.
-/

namespace HostExpr

variable {W : Type} {P Q : HostRef → Prop}

/-! ### References -/

/-- The references to host objects inside a value, at any depth. -/
def Value.refs : Value → List HostRef
  | .null => []
  | .boolean _ => []
  | .number _ => []
  | .text _ => []
  | .list items => items.flatMap Value.refs
  | .map entries => entries.flatMap fun t => t.2.refs
  | .host ref => [ref]
  termination_by v => sizeOf v
  decreasing_by
    all_goals simp_wf
    all_goals first
      | have := List.sizeOf_lt_of_mem ‹_ ∈ _›; omega
      | have := sizeOf_snd_lt_of_mem ‹_ ∈ _›; omega

/-- All references inside a value belong to a set of host objects. -/
def Value.Within (P : HostRef → Prop) (v : Value) : Prop :=
  ∀ ref ∈ v.refs, P ref

/-- The object and the arguments of an invocation belong to a set of host objects. -/
def Invocation.Within (P : HostRef → Prop) (c : Invocation W) : Prop :=
  P c.ref ∧ ∀ a ∈ c.args, a.Within P

namespace Value

theorem within_of_refs_eq_nil {v : Value} (h : v.refs = []) : v.Within P := by
  intro ref href
  rw [h] at href
  exact absurd href List.not_mem_nil

theorem Within.mono (hPQ : ∀ ref, P ref → Q ref) {v : Value} (h : v.Within P) : v.Within Q :=
  fun ref href => hPQ ref (h ref href)

theorem within_list {items : List Value} :
    (list items).Within P ↔ ∀ v ∈ items, v.Within P := by
  unfold Within
  rw [refs]
  simp only [List.mem_flatMap]
  exact ⟨fun h v hv ref href => h ref ⟨v, hv, href⟩, fun h ref ⟨v, hv, href⟩ => h v hv ref href⟩

theorem within_map {entries : List (String × Value)} :
    (map entries).Within P ↔ ∀ t ∈ entries, t.2.Within P := by
  unfold Within
  rw [refs]
  simp only [List.mem_flatMap]
  exact ⟨fun h t ht ref href => h ref ⟨t, ht, href⟩, fun h ref ⟨t, ht, href⟩ => h t ht ref href⟩

theorem within_host {ref : HostRef} : (host ref).Within P ↔ P ref := by
  unfold Within
  rw [refs]
  exact List.forall_mem_singleton

theorem within_null : null.Within P :=
  within_of_refs_eq_nil (by rw [refs])

/-- To be within a set is hereditary. -/
theorem hereditary_within : Hereditary (Within P) where
  null := within_null
  boolean _ := within_of_refs_eq_nil (by rw [refs])
  number _ := within_of_refs_eq_nil (by rw [refs])
  text _ := within_of_refs_eq_nil (by rw [refs])
  list := within_list.2
  map h := within_map.2 fun t ht => h t (Entries.mem_of_mem_ofPairs ht)
  item h hv := within_list.1 h _ hv
  entry h ht := within_map.1 h _ ht

end Value

/-- An invocation is within a set if its object and its arguments are. -/
theorem Invocation.has_within {c : Invocation W} : c.Has (Value.Within P) ↔ c.Within P :=
  and_congr_left fun _ => Value.within_host

end HostExpr
