import HostExpr.Host.Bundled
import HostExpr.Proofs.References

/-!
# Tables of host objects

What the objects of a table give away, and what a run does to a table.

* `Descriptor.Keeps`: a type of host objects that gives values with a property only, if it receives no
  others;
* `Descriptor.Within`: a type of host objects that gives references of a set only, or such as it
  was given in the arguments;
* `TextHost.descriptor_keeps`, `ListHost.descriptor_keeps`: the bundled types keep every hereditary
  property, and so they give no reference of their own (`TextHost.descriptor_within`,
  `ListHost.descriptor_within`);
* `HostTable.guarded`: the objects of a table are guarded if their types keep the property;
* `HostTable.run_append`: a run does the same in a table with more objects, as long as no reference
  leads to them.
-/

namespace HostExpr

open Stateful

variable {σ : Type} {V : Value → Prop} {P Q : HostRef → Prop}

/-! ### Types of host objects -/

namespace Descriptor

/-- The members and defaults of a type have a property, and so have the results of its methods if all
arguments have it. -/
structure Keeps (V : Value → Prop) (d : Descriptor σ) : Prop where
  member : ∀ t ∈ d.members, ∀ state, V (t.2 state)
  default : ∀ t ∈ d.methods, ∀ p ∈ t.2.params, ∀ v, p.default? = some v → V v
  result : ∀ t ∈ d.methods, ∀ state args v, (∀ a ∈ args, V a) → (t.2.run state args).1 = .ok v → V v

/-- The members and defaults of a type refer to host objects of a set only, and the results of its
methods to these and to those that the arguments refer to. -/
structure Within (P : HostRef → Prop) (d : Descriptor σ) : Prop where
  member : ∀ t ∈ d.members, ∀ state, (t.2 state).Within P
  default : ∀ t ∈ d.methods, ∀ p ∈ t.2.params, ∀ v, p.default? = some v → v.Within P
  result : ∀ t ∈ d.methods, ∀ state args v, (t.2.run state args).1 = .ok v →
    v.Within fun ref => P ref ∨ ∃ a ∈ args, ref ∈ a.refs

variable {d : Descriptor σ} {name : String}

theorem Keeps.withMember (h : d.Keeps V) {value : σ → Value} (hvalue : ∀ state, V (value state)) :
    (d.withMember name value).Keeps V where
  member t ht := by
    rcases Entries.mem_of_mem_insert ht with rfl | ht
    · exact hvalue
    · exact h.member t ht
  default := h.default
  result := h.result

theorem Keeps.withReading (h : d.Keeps V) {params : List Param}
    {run : σ → List Value → Except EvalError Value}
    (hdefault : ∀ p ∈ params, ∀ v, p.default? = some v → V v)
    (hresult : ∀ state args v, (∀ a ∈ args, V a) → run state args = .ok v → V v) :
    (d.withReading name params run).Keeps V where
  member := h.member
  default t ht := by
    rcases Entries.mem_of_mem_insert ht with rfl | ht
    · exact hdefault
    · exact h.default t ht
  result t ht := by
    rcases Entries.mem_of_mem_insert ht with rfl | ht
    · exact hresult
    · exact h.result t ht

/-- A type gives no references but those of a set and those in its arguments if it gives none outside any
larger set that the arguments stay in. -/
theorem within_iff : d.Within P ↔ ∀ Q, (∀ ref, P ref → Q ref) → d.Keeps (Value.Within Q) := by
  constructor
  · intro h Q hPQ
    refine ⟨fun t ht state => (h.member t ht state).mono hPQ,
      fun t ht p hp v hv => (h.default t ht p hp v hv).mono hPQ, ?_⟩
    intro t ht state args v hargs hv ref href
    rcases h.result t ht state args v hv ref href with hP | ⟨a, ha, hmem⟩
    · exact hPQ ref hP
    · exact hargs a ha ref hmem
  · intro h
    have hself := h P fun _ => id
    refine ⟨hself.member, hself.default, fun t ht state args v hv => ?_⟩
    have hargs : ∀ a ∈ args, a.Within fun ref => P ref ∨ ∃ a ∈ args, ref ∈ a.refs :=
      fun a ha ref href => .inr ⟨a, ha, href⟩
    exact (h _ fun _ => .inl).result t ht state args v hargs hv

theorem Within.mono (hPQ : ∀ ref, P ref → Q ref) (h : d.Within P) : d.Within Q :=
  within_iff.2 fun R hQR => within_iff.1 h R fun ref href => hQR ref (hPQ ref href)

end Descriptor

/-! ### The bundled types -/

theorem Structural.ofPlace (hV : Structural V) (place? : Option Nat) : V (.ofPlace place?) := by
  cases place? with
  | none => exact hV.number _
  | some i => exact hV.number _

namespace TextHost

theorem keeps_matchGroups (hV : Structural V) (pattern : Regex.Program) (s : String) :
    V (matchGroups pattern s) := by
  unfold matchGroups
  split
  · exact hV.null
  · refine hV.list fun v hv => ?_
    obtain ⟨group, -, rfl⟩ := List.mem_map.1 hv
    cases group with
    | none => exact hV.null
    | some cs => exact hV.text _

theorem keeps_withPattern {method pattern : String} {f : Regex.Program → Value} {v : Value}
    (hf : ∀ p, V (f p)) (h : withPattern method pattern f = .ok v) : V v := by
  unfold withPattern at h
  split at h
  · exact absurd h (by simp)
  · next p _ =>
    obtain rfl : f p = v := Except.ok.inj h
    exact hf p

/-- What the text object gives is made of plain values. -/
theorem descriptor_keeps (hV : Structural V) : (descriptor : Descriptor σ).Keeps V := by
  have hbase : Descriptor.Keeps V
      { typeName := "String", allows := fun (_ : σ) method => allowed.contains method } :=
    ⟨by simp, by simp, by simp⟩
  refine hbase
    |>.withMember ?name
    |>.withReading ?_ ?substr
    |>.withReading ?_ ?toUpperCase
    |>.withReading ?_ ?toLowerCase
    |>.withReading ?_ ?trim
    |>.withReading ?_ ?length
    |>.withReading ?_ ?indexOf
    |>.withReading ?_ ?pregMatch
    |>.withReading ?_ ?pregReplace
  case name => exact fun _ => hV.text _
  case substr | toUpperCase | toLowerCase | trim =>
    rintro _ args v - ⟨⟩
    exact hV.text _
  case length =>
    rintro _ args v - ⟨⟩
    exact hV.number _
  case indexOf =>
    rintro _ args v - ⟨⟩
    exact hV.ofPlace _
  case pregMatch => exact fun _ args v _ => keeps_withPattern fun p => keeps_matchGroups hV p _
  case pregReplace => exact fun _ args v _ => keeps_withPattern fun p => hV.text _
  -- Only `substr` has a parameter with a default.
  all_goals simp [textParam, hV.number]

/-- The text object gives no references. -/
theorem descriptor_within : (descriptor : Descriptor σ).Within P :=
  Descriptor.within_iff.2 fun _ _ => descriptor_keeps Value.hereditary_within.toStructural

end TextHost

namespace ListHost

/-- The items of a list among the arguments are parts of the arguments. -/
theorem keeps_of_mem_list (hV : Hereditary V) {args : List Value} (hargs : ∀ a ∈ args, V a) {i : Nat}
    {v : Value} (h : v ∈ Arg.list args i) : V v := by
  unfold Arg.list at h
  split at h
  · next items hitems => exact hV.item (hargs _ (List.mem_of_getElem? hitems)) h
  · exact absurd h List.not_mem_nil

/-- What the list object gives is made of plain values and of items that it was given. -/
theorem descriptor_keeps (hV : Hereditary V) : (descriptor : Descriptor σ).Keeps V := by
  have hbase : Descriptor.Keeps V
      { typeName := "Array", allows := fun (_ : σ) method => allowed.contains method } :=
    ⟨by simp, by simp, by simp⟩
  refine hbase
    |>.withReading ?_ ?join
    |>.withReading ?_ ?length
    |>.withReading ?_ ?first
    |>.withReading ?_ ?last
    |>.withReading ?_ ?indexOf
    |>.withReading ?_ ?reverse
  case join =>
    rintro _ args v - ⟨⟩
    exact hV.text _
  case length =>
    rintro _ args v - ⟨⟩
    exact hV.number _
  case first =>
    rintro _ args v hargs ⟨⟩
    exact hV.getD fun x hx => keeps_of_mem_list hV hargs (List.mem_of_head? hx)
  case last =>
    rintro _ args v hargs ⟨⟩
    exact hV.getD fun x hx => keeps_of_mem_list hV hargs (List.mem_of_getLast? hx)
  case indexOf =>
    rintro _ args v - ⟨⟩
    exact hV.ofPlace _
  case reverse =>
    rintro _ args v hargs ⟨⟩
    exact hV.list fun x hx => keeps_of_mem_list hV hargs (List.mem_reverse.1 hx)
  -- Only `join` has a parameter with a default.
  all_goals simp [input, hV.text]

/-- The list object gives no references but those in its arguments. -/
theorem descriptor_within : (descriptor : Descriptor σ).Within P :=
  Descriptor.within_iff.2 fun _ _ => descriptor_keeps Value.hereditary_within

end ListHost

/-! ### Guarded tables -/

namespace HostTable

/-- The types of all objects of a table keep a property. -/
def Keeps (V : Value → Prop) (table : HostTable σ) : Prop :=
  ∀ object ∈ table.objects, object.descriptor.Keeps V

/-- The types of all objects of a table refer to host objects of a set only. -/
def Within (P : HostRef → Prop) (table : HostTable σ) : Prop :=
  ∀ object ∈ table.objects, object.descriptor.Within P

variable {table : HostTable σ} {ref : HostRef} {object : HostObject σ}

theorem Within.keeps (h : table.Within P) (hPQ : ∀ ref, P ref → Q ref) : table.Keeps (Value.Within Q) :=
  fun object hobject => Descriptor.within_iff.1 (h object hobject) Q hPQ

theorem endState_ofExcept {W α : Type} (r : Except EvalError α) (s : W) :
    endState (Eval.ofExcept r s) = s := by
  cases r with
  | ok x => rfl
  | error e => rfl

theorem eq_ok_of_ofExcept {W α : Type} {r : Except EvalError α} {s t : W} {x : α}
    (h : Eval.ofExcept r s = .ok x t) : r = .ok x := by
  cases r with
  | ok y =>
    obtain ⟨rfl, -⟩ := pure_eq_ok.1 h
    rfl
  | error e => exact absurd h throw_ne_ok

theorem mem_of_object? (h : table.object? ref = some object) : object ∈ table.objects :=
  List.mem_of_getElem? h

theorem invoke_of_none (h : table.object? ref = none) (method : String) (args : List Value) :
    invoke ref method args table = .error (.unknownMethod ref.typeName method) table := by
  have hget : (get : Eval (HostTable σ) (HostTable σ)) table = .ok table table := rfl
  unfold invoke
  rw [bind_of_ok hget, h]
  rfl

/-- A method of an object changes this object only. -/
theorem invoke_of_some (h : table.object? ref = some object) (method : String)
    (args : List Value) :
    invoke ref method args table =
      Eval.ofExcept (object.invoke method args).1
        ⟨table.objects.set ref.id (object.invoke method args).2⟩ := by
  have hget : (get : Eval (HostTable σ) (HostTable σ)) table = .ok table table := rfl
  unfold invoke
  rw [bind_of_ok hget, h]
  rfl

theorem descriptor_invoke (object : HostObject σ) (method : String) (args : List Value) :
    (object.invoke method args).2.descriptor = object.descriptor := by
  unfold HostObject.invoke
  split <;> rfl

/-- The objects after a method of one of them are of the types that there were before. -/
theorem forall_descriptor_set {T : Descriptor σ → Prop} (h : ∀ other ∈ table.objects, T other.descriptor)
    (hobject : table.object? ref = some object) (method : String) (args : List Value) :
    ∀ other ∈ table.objects.set ref.id (object.invoke method args).2, T other.descriptor := by
  intro other hother
  rcases List.mem_or_eq_of_mem_set hother with hother | rfl
  · exact h other hother
  · rw [descriptor_invoke]
    exact h object (mem_of_object? hobject)

/-- No invocation changes the types of objects. -/
theorem forall_descriptor_after {T : Descriptor σ → Prop} {c : Invocation (HostTable σ)}
    (h : ∀ object ∈ c.before.objects, T object.descriptor) :
    ∀ object ∈ (c.after interface).objects, T object.descriptor := by
  show ∀ object ∈ (endState (invoke c.ref c.method c.args c.before)).objects, T object.descriptor
  cases hobject : c.before.object? c.ref with
  | none =>
    rw [invoke_of_none hobject]
    exact h
  | some object =>
    rw [invoke_of_some hobject, endState_ofExcept]
    exact forall_descriptor_set h hobject c.method c.args

namespace Keeps

theorem member (h : table.Keeps V) {name : String} {v : Value}
    (hv : interface.member? table ref name = some v) : V v := by
  obtain ⟨object, hobject, hv⟩ := Option.bind_eq_some_iff.1 hv
  obtain ⟨value, hvalue, rfl⟩ := Option.map_eq_some_iff.1 hv
  exact (h object (mem_of_object? hobject)).member _ (Entries.mem_of_find? hvalue) _

theorem default (h : table.Keeps V) {method : String} {params : List Param} {p : Param} {d : Value}
    (hparams : interface.params? table ref method = some params) (hp : p ∈ params)
    (hd : p.default? = some d) : V d := by
  obtain ⟨object, hobject, hparams⟩ := Option.bind_eq_some_iff.1 hparams
  obtain ⟨m, hm, rfl⟩ := Option.map_eq_some_iff.1 hparams
  exact (h object (mem_of_object? hobject)).default _ (Entries.mem_of_find? hm) p hp d hd

theorem result (h : table.Keeps V) {method : String} {args : List Value} {v : Value}
    {table' : HostTable σ} (hargs : ∀ a ∈ args, V a)
    (hv : interface.invoke ref method args table = .ok v table') : V v := by
  change invoke ref method args table = .ok v table' at hv
  cases hobject : table.object? ref with
  | none =>
    rw [invoke_of_none hobject] at hv
    exact absurd hv (by simp)
  | some object =>
    rw [invoke_of_some hobject] at hv
    have hresult := eq_ok_of_ofExcept hv
    unfold HostObject.invoke at hresult
    split at hresult
    · exact absurd hresult (by simp)
    · next m hm =>
      exact (h object (mem_of_object? hobject)).result _ (Entries.mem_of_find? hm) _ _ v hargs hresult

end Keeps

/-- The objects of a table are guarded if their types keep the property. -/
theorem guarded : Guarded (interface (σ := σ)) (Keeps V) V where
  member htable _ hv := htable.member hv
  default htable _ hparams hp hd := htable.default hparams hp hd
  result htable hc hv := htable.result hc.2 hv
  after htable _ := forall_descriptor_after htable

/-! ### Tables with more objects -/

/-- A table whose references lead to its own first `n` objects, which are all that it has, and the
same table with more objects. -/
def Extended (extra : List (HostObject σ)) (n : Nat) (table table' : HostTable σ) : Prop :=
  table' = ⟨table.objects ++ extra⟩ ∧ table.objects.length = n ∧ table.Within fun ref => ref.id < n

section

variable (extra : List (HostObject σ)) (h : ref.id < table.objects.length)

include h

theorem object?_append : object? ⟨table.objects ++ extra⟩ ref = table.object? ref :=
  List.getElem?_append_left h

theorem member?_append (member : String) :
    interface.member? ⟨table.objects ++ extra⟩ ref member = interface.member? table ref member := by
  show (object? _ ref).bind _ = (object? table ref).bind _
  rw [object?_append extra h]

theorem allows_append (method : String) :
    interface.allows ⟨table.objects ++ extra⟩ ref method = interface.allows table ref method := by
  show (object? _ ref).any _ = (object? table ref).any _
  rw [object?_append extra h]

theorem params?_append (method : String) :
    interface.params? ⟨table.objects ++ extra⟩ ref method = interface.params? table ref method := by
  show (object? _ ref).bind _ = (object? table ref).bind _
  rw [object?_append extra h]

theorem rejected_append {method : String} {args : List Value} {e : EvalError}
    (hreject : Rejected interface table ref method args e) :
    Rejected interface ⟨table.objects ++ extra⟩ ref method args e := by
  cases hreject with
  | gate hallows =>
    exact .gate ((allows_append extra h method).trans hallows)
  | existence hallows hparams =>
    rw [← allows_append extra h] at hallows
    exact .existence hallows ((params?_append extra h method).trans hparams)
  | binding hallows hparams hbind =>
    rw [← allows_append extra h] at hallows
    exact .binding hallows ((params?_append extra h method).trans hparams) hbind

theorem admitted_append {method : String} {args bound : List Value}
    (hpassed : Admitted interface table ref method args bound) :
    Admitted interface ⟨table.objects ++ extra⟩ ref method args bound := by
  obtain ⟨hallows, params, hparams, hbind⟩ := hpassed
  rw [← allows_append extra h] at hallows
  exact ⟨hallows, params, (params?_append extra h method).trans hparams, hbind⟩

end

theorem lookup_append (extra : List (HostObject σ)) (key : Key) {v : Value}
    (hv : v.Within fun ref => ref.id < table.objects.length) :
    v.lookup interface ⟨table.objects ++ extra⟩ key = v.lookup interface table key := by
  cases v with
  | host ref =>
    show Except.ok _ = Except.ok _
    rw [member?_append extra (Value.within_host.1 hv)]
  | null | boolean _ | number _ | text _ | list _ | map _ => rfl

/-- A method runs alike in both tables. -/
theorem invoke_append (extra : List (HostObject σ)) {n : Nat} (hlength : table.objects.length = n)
    (htable : table.Within fun ref => ref.id < n) (href : ref.id < n) (method : String)
    (args : List Value) :
    SameResult (Extended extra n) (invoke ref method args table)
      (invoke ref method args ⟨table.objects ++ extra⟩) := by
  subst hlength
  have hsame := object?_append extra href
  cases hobject : table.object? ref with
  | none =>
    rw [invoke_of_none hobject, invoke_of_none (hsame.trans hobject)]
    exact .error ⟨rfl, rfl, htable⟩
  | some object =>
    have hset : Extended extra table.objects.length
        ⟨table.objects.set ref.id (object.invoke method args).2⟩
        ⟨(table.objects ++ extra).set ref.id (object.invoke method args).2⟩ := by
      exact ⟨by rw [List.set_append_left _ _ href], List.length_set ..,
        forall_descriptor_set htable hobject method args⟩
    rw [invoke_of_some hobject, invoke_of_some (hsame.trans hobject)]
    cases (object.invoke method args).1 with
    | ok v => exact .ok hset
    | error e => exact .error hset

theorem alike_append (extra : List (HostObject σ)) (n : Nat) :
    AlikeHostsIn (Extended extra n) (Value.Within fun ref => ref.id < n)
      (interface (σ := σ)) interface where
  get {v} key hv := by
    rintro table _ ⟨rfl, rfl, htable⟩
    have hsame := lookup_append extra key hv
    rw [Value.get_apply, Value.get_apply, hsame]
    refine ⟨Alike.ofExcept _ _ _ ⟨rfl, rfl, htable⟩, fun w t hw => ?_⟩
    exact guarded.get_keeps Value.hereditary_within (htable.keeps fun _ => id) hv (eq_ok_of_ofExcept hw)
  call {v} method args hv hargs := by
    rintro table _ ⟨rfl, rfl, htable⟩
    cases v with
    | null => exact AlikeIn.pure Value.within_null _ _ ⟨rfl, rfl, htable⟩
    | host ref =>
      have href := Value.within_host.1 hv
      show SameResult _ (interface.call ref method args table)
        (interface.call ref method args ⟨table.objects ++ extra⟩) ∧
        ∀ x t, interface.call ref method args table = .ok x t → _
      rcases interface.rejected_or_admitted table ref method args with
        ⟨e, hreject⟩ | ⟨bound, hpassed⟩
      · rw [interface.call_of_rejected hreject,
          interface.call_of_rejected (rejected_append extra href hreject)]
        exact ⟨.error ⟨rfl, rfl, htable⟩, by rintro x t ⟨⟩⟩
      · have hkeeps := htable.keeps fun _ => id
        have hcall := guarded.admitted_has Value.hereditary_within hkeeps hv hargs hpassed
        rw [interface.call_of_admitted hpassed,
          interface.call_of_admitted (admitted_append extra href hpassed)]
        exact ⟨invoke_append extra rfl htable href method bound,
          fun x t hx => guarded.result hkeeps hcall hx⟩
    | boolean _ | number _ | text _ | list _ | map _ =>
      exact AlikeIn.throw _ _ _ ⟨rfl, rfl, htable⟩

/-- **Objects that nothing refers to change nothing.**  If all references in a context and in the
types of a table lead to objects of the table, a run has the same result with more objects in the
table, and leaves these alone. -/
theorem run_append {table : HostTable σ} {context : Context}
    (htable : table.Within fun ref => ref.id < table.objects.length)
    (hroot : context.root.Within fun ref => ref.id < table.objects.length) (e : Expr)
    (extra : List (HostObject σ)) :
    e.run interface context ⟨table.objects ++ extra⟩ =
      ((e.run interface context table).1,
        ⟨(e.run interface context table).2.objects ++ extra⟩) := by
  have hstart : Extended extra table.objects.length table ⟨table.objects ++ extra⟩ :=
    ⟨rfl, rfl, htable⟩
  obtain ⟨hvalue, ⟨hafter, -⟩, -⟩ :=
    Expr.run_alikeIn Value.hereditary_within.toStructural (alike_append extra _) hroot e hstart
  exact Prod.ext hvalue.symm hafter

end HostTable

end HostExpr
