import HostExpr.Check
import HostExpr.Proofs.HostTables
import HostExpr.Proofs.JsonConversion

/-!
# Distinct keys

A map that a program comes to has every key once.

* `Value.hereditary_keysDistinct`: distinct keys are hereditary, so that runs among guarded host objects keep
  them (`Guarded.run_keeps`);
* `Json.has_toValue`: the values of documents have every structural property;
* `Context.keysDistinct_empty`, `Context.keysDistinct_bind`, `Context.keysDistinct_ofPairs`: the ways to build
  a context;
* `Setup.KeysDistinct`: a context and host objects with distinct keys, with `Setup.KeysDistinct.bindHost` and
  `Setup.KeysDistinct.bindBundled`;
* `Setup.KeysDistinct.run`: what a run comes to, passes to methods and leaves behind;
* `Check.keysDistinct_of_run`, `Check.toValue_of_run`: the value of a check, and the document that is printed
  for it.
-/

namespace HostExpr

variable {σ : Type} {V : Value → Prop}

/-! ### Values and documents -/

/-- Distinct keys are hereditary. -/
theorem Value.hereditary_keysDistinct : Hereditary KeysDistinct where
  null := .of_parts (by rintro _ ⟨⟩) (List.forall_mem_nil _)
  boolean _ := .of_parts (by rintro _ ⟨⟩) (List.forall_mem_nil _)
  number _ := .of_parts (by rintro _ ⟨⟩) (List.forall_mem_nil _)
  text _ := .of_parts (by rintro _ ⟨⟩) (List.forall_mem_nil _)
  list h := .of_parts (by rintro _ ⟨⟩) h
  map {pairs} h := by
    refine .of_parts ?_ fun w hw => ?_
    · rintro _ ⟨⟩
      exact Entries.nodup_keys_ofPairs pairs
    · obtain ⟨t, ht, rfl⟩ := List.mem_map.1 hw
      exact h t (Entries.mem_of_mem_ofPairs ht)
  item h hv := h.of_inside hv
  entry h ht := h.of_mem ht

theorem Value.keysDistinct_host (ref : HostRef) : (host ref).KeysDistinct :=
  .of_parts (by rintro _ ⟨⟩) (List.forall_mem_nil _)

/-- Documents stand for values with every structural property: there are no host objects in them, and the
keys of their maps are bound one after another. -/
theorem Json.has_toValue (hV : Structural V) (doc : Json) : V doc.toValue := by
  cases doc with
  | null => exact hV.null
  | boolean b => exact hV.boolean b
  | integer n => exact hV.number _
  | number x => exact hV.number x
  | text s => exact hV.text s
  | list items =>
    rw [toValue, toValues_eq]
    refine hV.list fun v hv => ?_
    obtain ⟨item, hitem, rfl⟩ := List.mem_map.1 hv
    exact has_toValue hV item
  | map entries =>
    rw [toValue, toEntries_eq]
    refine hV.map fun t ht => ?_
    obtain ⟨u, hu, rfl⟩ := List.mem_map.1 ht
    exact has_toValue hV u.2
  termination_by sizeOf doc
  decreasing_by
    all_goals simp_wf
    · have := List.sizeOf_lt_of_mem hitem
      omega
    · have := sizeOf_snd_lt_of_mem hu
      omega

/-! ### Contexts -/

namespace Context

theorem keysDistinct_empty : empty.root.KeysDistinct :=
  Value.hereditary_keysDistinct.map (List.forall_mem_nil _)

theorem keysDistinct_ofPairs {pairs : List (String × Value)} (h : ∀ t ∈ pairs, t.2.KeysDistinct) :
    (ofPairs pairs).root.KeysDistinct :=
  Value.hereditary_keysDistinct.map h

theorem keysDistinct_bind {context : Context} (h : context.root.KeysDistinct) (name : String) {v : Value}
    (hv : v.KeysDistinct) : (context.bind name v).root.KeysDistinct := by
  unfold bind
  split
  · next entries hroot =>
    rw [hroot] at h
    refine .of_parts ?_ fun w hw => ?_
    · rintro _ ⟨⟩
      exact Entries.nodup_keys_insert h.nodup name v
    · obtain ⟨t, ht, rfl⟩ := List.mem_map.1 hw
      rcases Entries.mem_of_mem_insert ht with rfl | ht
      · exact hv
      · exact h.of_mem ht
  · have hpair : ∀ t ∈ [(name, v)], t.2.KeysDistinct := List.forall_mem_singleton.2 hv
    exact keysDistinct_ofPairs hpair

end Context

/-! ### Contexts with host objects -/

/-- The keys of the maps in a context are distinct, and those of the maps that its host objects give. -/
structure Setup.KeysDistinct (setup : Setup σ) : Prop where
  root : setup.context.root.KeysDistinct
  hosts : setup.hosts.Keeps Value.KeysDistinct

namespace Setup.KeysDistinct

variable {setup : Setup σ}

theorem bindHost (h : setup.KeysDistinct) (name : String) {object : HostObject σ}
    (hobject : object.descriptor.Keeps Value.KeysDistinct) : (setup.bindHost name object).KeysDistinct where
  root := Context.keysDistinct_bind h.root name (Value.keysDistinct_host _)
  hosts := List.forall_mem_append.2 ⟨h.hosts, List.forall_mem_singleton.2 hobject⟩

theorem bindBundled (h : setup.KeysDistinct) (state : σ) : (setup.bindBundled state).KeysDistinct :=
  (h.bindHost "String" (TextHost.descriptor_keeps Value.hereditary_keysDistinct.toStructural)).bindHost
    "Array" (ListHost.descriptor_keeps Value.hereditary_keysDistinct)

/-- **Runs keep keys distinct.**  If the keys of all maps in a context are distinct, and those of the maps
that its host objects give, then so are the keys of the maps in the value of an expression and in every
argument that a method receives, and the host objects give no others afterwards. -/
theorem run (h : setup.KeysDistinct) (e : Expr) :
    (∀ v, (e.run HostTable.interface setup.context setup.hosts).1 = .ok v → v.KeysDistinct) ∧
    KeysDistinct ⟨setup.context, (e.run HostTable.interface setup.context setup.hosts).2⟩ ∧
    ∃ calls, e.run HostTable.interface.logged setup.context (setup.hosts, []) =
        ((e.run HostTable.interface setup.context setup.hosts).1,
          (e.run HostTable.interface setup.context setup.hosts).2, calls) ∧
      ∀ c ∈ calls, ∀ a ∈ c.args, a.KeysDistinct := by
  obtain ⟨hvalue, hhosts, calls, hcalls, hargs⟩ :=
    HostTable.guarded.run_keeps Value.hereditary_keysDistinct h.root e h.hosts
  exact ⟨hvalue, ⟨h.root, hhosts⟩, calls, hcalls, fun c hc => (hargs c hc).2⟩

end Setup.KeysDistinct

/-! ### Checks -/

namespace Check

variable {check : Check} {root v : Value} {doc : Json}

theorem keysDistinct_readRoot {context? : Option String} (h : readRoot context? = .ok root) :
    root.KeysDistinct := by
  unfold readRoot at h
  split at h
  · obtain rfl : Value.map [] = root := Except.ok.inj h
    exact Context.keysDistinct_empty
  · split at h
    · next doc _ =>
      obtain rfl : doc.toValue = root := Except.ok.inj h
      exact doc.has_toValue Value.hereditary_keysDistinct.toStructural
    · exact absurd h (by simp)

theorem keysDistinct_setup (h : root.KeysDistinct) : (check.setup root).KeysDistinct := by
  have hplain : Setup.KeysDistinct (⟨⟨root⟩, {}⟩ : Setup Unit) := ⟨h, List.forall_mem_nil _⟩
  unfold setup
  split
  · exact hplain
  · exact hplain.bindBundled ()

/-- The keys of a value that an expression has in the context of a check are distinct. -/
theorem keysDistinct_of_run (hroot : readRoot check.context? = .ok root) {e : Expr}
    (hv : (e.run HostTable.interface (check.setup root).context (check.setup root).hosts).1 = .ok v) :
    v.KeysDistinct :=
  ((keysDistinct_setup (keysDistinct_readRoot hroot)).run e).1 v hv

section

variable {ε ε' α β : Type} {r : Except ε α}

theorem eq_ok_of_mapError {f : ε → ε'} {x : α} (h : r.mapError f = .ok x) : r = .ok x := by
  cases r with
  | ok y =>
    obtain rfl : y = x := Except.ok.inj h
    rfl
  | error e => exact absurd h (by rintro ⟨⟩)

theorem exists_of_bind_eq_ok {f : α → Except ε β} {y : β} (h : r >>= f = .ok y) :
    ∃ x, r = .ok x ∧ f x = .ok y := by
  cases r with
  | ok x => exact ⟨x, rfl, h⟩
  | error e => exact absurd h (by rintro ⟨⟩)

end

/-- A check that gives a document has parsed its expression and read its context, and the document is that of
the value of the expression. -/
theorem eq_ofValue_of_run (h : check.run = .ok (.value doc)) :
    ∃ e root v, parse check.expression = .ok e ∧ readRoot check.context? = .ok root ∧
      (e.run HostTable.interface (check.setup root).context (check.setup root).hosts).1 = .ok v ∧
      doc = .ofValue v := by
  unfold run at h
  obtain ⟨e, he, h⟩ := exists_of_bind_eq_ok h
  split at h
  · exact absurd h (by rintro ⟨⟩)
  · obtain ⟨root, hroot, h⟩ := exists_of_bind_eq_ok h
    obtain ⟨v, hv, h⟩ := exists_of_bind_eq_ok h
    obtain rfl : Json.ofValue v = doc := CheckResult.value.inj (Except.ok.inj h)
    exact ⟨e, root, v, eq_ok_of_mapError he, hroot, eq_ok_of_mapError hv, rfl⟩

/-- The document of a check stands for the value of the expression, as far as JSON keeps it, with its lists,
its maps and the order of their keys. -/
theorem toValue_of_run (h : check.run = .ok (.value doc)) :
    ∃ e root v, parse check.expression = .ok e ∧ readRoot check.context? = .ok root ∧
      (e.run HostTable.interface (check.setup root).context (check.setup root).hosts).1 = .ok v ∧
      (doc.toValue == v.jsonForm) = true ∧ doc.toValue.outline = v.outline := by
  obtain ⟨e, root, v, hparse, hroot, hv, rfl⟩ := eq_ofValue_of_run h
  have hkeys := keysDistinct_of_run hroot hv
  exact ⟨e, root, v, hparse, hroot, hv, Json.toValue_ofValue hkeys, Json.outline_toValue_ofValue hkeys⟩

end Check

end HostExpr
