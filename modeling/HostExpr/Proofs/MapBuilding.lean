import Mathlib.Data.List.Induction
import HostExpr.Eval
import HostExpr.Host.Object
import HostExpr.Proofs.Stateful

/-!
# Building maps

A map comes from binding names in a context one by one, from a list of pairs at once, or from a map literal.

* `Entries.insert_cases`: what binding a key changes;
* `Entries.keys_ofPairs`, `Entries.find?_ofPairs`, `Entries.mem_ofPairs_iff`: the entries of a list of pairs
  in closed form, the keys where they come first and the values that come last;
* `Expr.Yields`: the properties of a map literal evaluate to the values of a list of pairs;
* `Context.maps_agree`: the three ways come to the same entries, and one more name changes nothing else.
-/

namespace HostExpr

/-! ### Entries in closed form -/

namespace Entries

variable {α : Type}

/-- A key that is bound keeps its place, and a new one is added at the end. -/
theorem insert_cases (key : String) (x : α) (entries : List (String × α)) :
    (key ∉ keys entries ∧ insert key x entries = entries ++ [(key, x)]) ∨
      ∃ before y after, entries = before ++ (key, y) :: after ∧
        insert key x entries = before ++ (key, x) :: after := by
  induction entries with
  | nil => exact .inl ⟨List.not_mem_nil, rfl⟩
  | cons t ts ih =>
    obtain ⟨k, y⟩ := t
    by_cases h : k = key
    · subst h
      exact .inr ⟨[], y, ts, rfl, if_pos rfl⟩
    · have hinsert : insert key x ((k, y) :: ts) = (k, y) :: insert key x ts := if_neg h
      rw [hinsert]
      rcases ih with ⟨hnew, heq⟩ | ⟨before, z, after, hts, heq⟩
      · left
        rw [keys_cons, List.mem_cons, not_or, heq]
        exact ⟨⟨Ne.symm h, hnew⟩, rfl⟩
      · right
        rw [heq, hts]
        exact ⟨(k, y) :: before, z, after, rfl, rfl⟩

theorem ofPairs_concat (pairs : List (String × α)) (key : String) (x : α) :
    ofPairs (pairs ++ [(key, x)]) = insert key x (ofPairs pairs) := by
  show (pairs ++ [(key, x)]).foldl _ [] = _
  rw [List.foldl_append]
  rfl

/-- The keys of a list of pairs stand where they come first. -/
theorem keys_ofPairs (pairs : List (String × α)) : keys (ofPairs pairs) = (keys pairs).eraseDups := by
  induction pairs using List.reverseRecOn with
  | nil => rfl
  | append_singleton pairs t ih =>
    obtain ⟨key, x⟩ := t
    have hkeys : keys (pairs ++ [(key, x)]) = keys pairs ++ [key] := List.map_append
    rw [ofPairs_concat, keys_insert, ih, hkeys, List.eraseDups_append]
    by_cases h : key ∈ keys pairs
    · rw [if_pos (List.mem_eraseDups.2 h)]
      simp [List.removeAll, h]
    · rw [if_neg (mt List.mem_eraseDups.1 h)]
      simp [List.removeAll, h, List.eraseDups_cons]

/-- Under a key stands the value that comes last. -/
theorem find?_ofPairs (key : String) (pairs : List (String × α)) :
    find? key (ofPairs pairs) = find? key pairs.reverse := by
  induction pairs using List.reverseRecOn with
  | nil => rfl
  | append_singleton pairs t ih =>
    obtain ⟨k, x⟩ := t
    rw [ofPairs_concat, List.reverse_concat, find?]
    by_cases h : k = key
    · subst h
      rw [find?_insert_self, if_pos rfl]
    · rw [find?_insert_of_ne (Ne.symm h), if_neg h, ih]

/-- Under a key stands the value that comes first. -/
theorem find?_eq_some_iff_append {key : String} {x : α} {entries : List (String × α)} :
    find? key entries = some x ↔
      ∃ before after, entries = before ++ (key, x) :: after ∧ key ∉ keys before := by
  induction entries with
  | nil => simp [find?]
  | cons t ts ih =>
    obtain ⟨k, y⟩ := t
    rw [find?]
    by_cases h : k = key
    · subst h
      rw [if_pos rfl]
      constructor
      · intro heq
        cases heq
        exact ⟨[], ts, rfl, List.not_mem_nil⟩
      · rintro ⟨before, after, heq, hbefore⟩
        cases before with
        | nil =>
          cases heq
          rfl
        | cons u us =>
          cases heq
          exact absurd List.mem_cons_self hbefore
    · rw [if_neg h, ih]
      constructor
      · rintro ⟨before, after, rfl, hbefore⟩
        refine ⟨(k, y) :: before, after, rfl, ?_⟩
        rw [keys_cons, List.mem_cons, not_or]
        exact ⟨Ne.symm h, hbefore⟩
      · rintro ⟨before, after, heq, hbefore⟩
        cases before with
        | nil =>
          cases heq
          exact absurd rfl h
        | cons u us =>
          cases heq
          exact ⟨us, after, rfl, fun hmem => hbefore (List.mem_cons_of_mem _ hmem)⟩

/-- The entry of a key holds the value that comes last. -/
theorem mem_ofPairs_iff {key : String} {x : α} {pairs : List (String × α)} :
    (key, x) ∈ ofPairs pairs ↔
      ∃ before after, pairs = before ++ (key, x) :: after ∧ key ∉ keys after := by
  rw [← find?_eq_some_iff (nodup_keys_ofPairs pairs), find?_ofPairs, find?_eq_some_iff_append]
  constructor
  · rintro ⟨before, after, heq, hbefore⟩
    refine ⟨after.reverse, before.reverse, ?_, ?_⟩
    · rw [← List.reverse_reverse pairs, heq]
      simp
    · simpa [keys] using hbefore
  · rintro ⟨before, after, rfl, hafter⟩
    refine ⟨after.reverse, before.reverse, by simp, ?_⟩
    simpa [keys] using hafter

end Entries

/-! ### Map literals -/

section

variable {W : Type} (hosts : HostInterface W) (root : Value)

/-- The properties of a map literal evaluate one after another, each to the value of the pair in its place,
which goes by the property's name. -/
inductive Expr.Yields : List (String × Expr) → W → List (String × Value) → W → Prop
  | nil (s : W) : Yields [] s [] s
  | cons {name : String} {e : Expr} {entries : List (String × Expr)} {v : Value}
      {pairs : List (String × Value)} {s t s' : W} :
      e.eval hosts root s = .ok v t → Yields entries t pairs s' →
        Yields ((name, e) :: entries) s ((name, v) :: pairs) s'

theorem evalEntries_eq_ok_iff {entries : List (String × Expr)} {pairs : List (String × Value)} {s s' : W} :
    evalEntries hosts root entries s = .ok pairs s' ↔ Expr.Yields hosts root entries s pairs s' := by
  induction entries generalizing pairs s with
  | nil =>
    rw [evalEntries, Stateful.pure_eq_ok]
    constructor
    · rintro ⟨rfl, rfl⟩
      exact .nil s
    · intro h
      cases h
      exact ⟨rfl, rfl⟩
  | cons t entries ih =>
    obtain ⟨name, e⟩ := t
    simp only [evalEntries, Stateful.bind_eq_ok, Stateful.pure_eq_ok]
    constructor
    · rintro ⟨v, t, he, vs, t', hentries, rfl, rfl⟩
      exact .cons he (ih.1 hentries)
    · intro h
      cases h with
      | cons he hentries => exact ⟨_, _, he, _, _, ih.2 hentries, rfl, rfl⟩

/-- A map literal evaluates to the entries that its properties yield. -/
theorem Expr.Yields.run_map {context : Context} {entries : List (String × Expr)}
    {pairs : List (String × Value)} {s s' : W} (h : Yields hosts context.root entries s pairs s') :
    (Expr.map entries).run hosts context s = (.ok (Context.ofPairs pairs).root, s') := by
  have heval : (Expr.map entries).eval hosts context.root s = .ok (.map (Entries.ofPairs pairs)) s' := by
    rw [Expr.eval, Stateful.bind_of_ok ((evalEntries_eq_ok_iff hosts context.root).2 h)]
    rfl
  unfold Expr.run
  rw [heval]
  rfl

end

/-! ### Contexts -/

namespace Context

theorem ofPairs_concat (pairs : List (String × Value)) (name : String) (v : Value) :
    ofPairs (pairs ++ [(name, v)]) = (ofPairs pairs).bind name v := by
  show Context.mk (.map (Entries.ofPairs (pairs ++ [(name, v)]))) = _
  rw [Entries.ofPairs_concat]
  rfl

/-- Binding names one by one gives the context of the list. -/
theorem foldl_bind_empty (pairs : List (String × Value)) :
    pairs.foldl (fun context pair => context.bind pair.1 pair.2) empty = ofPairs pairs := by
  induction pairs using List.reverseRecOn with
  | nil => rfl
  | append_singleton pairs t ih =>
    rw [List.foldl_append, ih, ofPairs_concat]
    rfl

theorem bind_root_of_map {context : Context} {entries : List (String × Value)}
    (h : context.root = .map entries) (name : String) (v : Value) :
    (context.bind name v).root = .map (Entries.insert name v entries) := by
  unfold bind
  rw [h]

theorem bind_root_of_kind_ne {context : Context} (h : context.root.kind ≠ .map) (name : String)
    (v : Value) : (context.bind name v).root = .map [(name, v)] := by
  unfold bind
  cases hroot : context.root with
  | map entries =>
    rw [hroot] at h
    exact absurd rfl h
  | _ => rfl

/-- Binding a name leaves a map, whatever the root was. -/
theorem exists_bind_root (context : Context) (name : String) (v : Value) :
    ∃ entries, (context.bind name v).root = .map entries ∧ Entries.find? name entries = some v := by
  cases hroot : context.root with
  | map entries => exact ⟨_, bind_root_of_map hroot name v, Entries.find?_insert_self name v entries⟩
  | _ =>
    refine ⟨_, bind_root_of_kind_ne ?_ name v, if_pos rfl⟩
    rw [hroot]
    intro h
    cases h

/-- A name that was just bound is found with its value, and under every other key of a map is what was
there. -/
theorem lookup_bind {W : Type} (hosts : HostInterface W) (s : W) {context : Context}
    {entries : List (String × Value)} (h : context.root = .map entries) (name : String) (v : Value)
    (key : Key) :
    (context.bind name v).root.lookup hosts s key =
      if key.toName = name then .ok v else context.root.lookup hosts s key := by
  rw [bind_root_of_map h, h, Value.lookup, Value.lookup]
  by_cases hname : key.toName = name
  · rw [if_pos hname, hname, Entries.find?_insert_self]
    rfl
  · rw [if_neg hname, Entries.find?_insert_of_ne hname]

theorem get_bind {W : Type} (hosts : HostInterface W) {context : Context}
    {entries : List (String × Value)} (h : context.root = .map entries) (name : String) (v : Value)
    (key : Key) :
    (context.bind name v).root.get hosts key =
      if key.toName = name then pure v else context.root.get hosts key := by
  funext s
  show Eval.ofExcept ((context.bind name v).root.lookup hosts s key) s = _
  rw [lookup_bind hosts s h]
  by_cases hname : key.toName = name
  · rw [if_pos hname, if_pos hname]
    rfl
  · rw [if_neg hname, if_neg hname]
    rfl

/-- **All ways to build a map agree.**  Binding names one by one, taking a list of pairs at once and
evaluating a map literal come to the same entries: the distinct names where they come first, each with
the value that comes last.  One more name on a map is found with its value, leaves what is under every
other name and keeps all entries in their places, with a new entry at the end only; a root that is no map
gives way to the new entry. -/
theorem maps_agree :
    (∀ pairs : List (String × Value),
      pairs.foldl (fun context pair => context.bind pair.1 pair.2) empty = ofPairs pairs ∧
      (∀ (W : Type) (hosts : HostInterface W) (context : Context) (entries : List (String × Expr))
        (s s' : W), Expr.Yields hosts context.root entries s pairs s' →
          (Expr.map entries).run hosts context s = (.ok (ofPairs pairs).root, s')) ∧
      ∃ entries, (ofPairs pairs).root = .map entries ∧
        Entries.keys entries = (Entries.keys pairs).eraseDups ∧
        ∀ name v, (name, v) ∈ entries ↔
          ∃ before after, pairs = before ++ (name, v) :: after ∧ name ∉ Entries.keys after) ∧
    (∀ (context : Context) (entries : List (String × Value)), context.root = .map entries →
      ∀ (name : String) (v : Value),
        (∀ (W : Type) (hosts : HostInterface W) (key : Key),
          (key.toName = name → (context.bind name v).root.get hosts key = pure v) ∧
          (key.toName ≠ name →
            (context.bind name v).root.get hosts key = context.root.get hosts key)) ∧
        ((name ∉ Entries.keys entries ∧
            (context.bind name v).root = .map (entries ++ [(name, v)])) ∨
          ∃ before w after, entries = before ++ (name, w) :: after ∧
            (context.bind name v).root = .map (before ++ (name, v) :: after))) ∧
    ∀ context : Context, context.root.kind ≠ .map →
      ∀ (name : String) (v : Value), (context.bind name v).root = .map [(name, v)] := by
  refine ⟨fun pairs => ⟨foldl_bind_empty pairs, fun W hosts context entries s s' h => h.run_map, ?_⟩,
    fun context entries hroot name v => ⟨fun W hosts key => ⟨fun hkey => ?_, fun hkey => ?_⟩, ?_⟩,
    fun context hkind name v => bind_root_of_kind_ne hkind name v⟩
  · exact ⟨_, rfl, Entries.keys_ofPairs pairs, fun name v => Entries.mem_ofPairs_iff⟩
  · rw [get_bind hosts hroot]
    exact if_pos hkey
  · rw [get_bind hosts hroot]
    exact if_neg hkey
  · rw [bind_root_of_map hroot]
    rcases Entries.insert_cases name v entries with ⟨hnew, heq⟩ | ⟨before, w, after, hentries, heq⟩
    · exact .inl ⟨hnew, congrArg Value.map heq⟩
    · exact .inr ⟨before, w, after, hentries, congrArg Value.map heq⟩

/-- `{a: 1, b: 2, a: 'x'}` has the entries `a` and `b` in this order, with the text under `a`; binding `c`
then adds an entry at the end, and on a list it leaves this entry only. -/
theorem maps_agree_repeated :
    (Expr.map [("a", .number 1.0), ("b", .number 2.0), ("a", .text "x")]).run HostTable.interface ⟨.null⟩
      ({} : HostTable Unit) = (.ok (.map [("a", .text "x"), ("b", .number 2.0)]), {}) ∧
    ((Context.mk (.map [("a", .text "x"), ("b", .number 2.0)])).bind "c" .null).root.get
      (HostTable.interface (σ := Unit)) (.name "a") = pure (.text "x") ∧
    ((Context.mk (.map [("a", .text "x"), ("b", .number 2.0)])).bind "c" .null).root =
      .map [("a", .text "x"), ("b", .number 2.0), ("c", .null)] ∧
    ((Context.mk (.list [.null])).bind "c" .null).root = .map [("c", .null)] := by
  obtain ⟨hpairs, hmap, hother⟩ := maps_agree
  have hyields : Expr.Yields (HostTable.interface (σ := Unit)) .null
      [("a", .number 1.0), ("b", .number 2.0), ("a", .text "x")] {}
      [("a", .number 1.0), ("b", .number 2.0), ("a", .text "x")] {} :=
    .cons rfl (.cons rfl (.cons rfl (.nil _)))
  obtain ⟨-, hliteral, -⟩ := hpairs [("a", .number 1.0), ("b", .number 2.0), ("a", .text "x")]
  obtain ⟨hget, -⟩ := hmap ⟨.map [("a", .text "x"), ("b", .number 2.0)]⟩ _ rfl "c" .null
  obtain ⟨-, hunchanged⟩ := hget _ (HostTable.interface (σ := Unit)) (.name "a")
  exact ⟨hliteral _ _ ⟨.null⟩ _ _ _ hyields, hunchanged (by decide), rfl, hother _ (by decide) _ _⟩

end Context

end HostExpr
