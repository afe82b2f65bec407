import HostExpr.Proofs.HostTables

/-!
# References to host objects cannot be forged

An expression gets hold of the host objects that its context gives it, and of no others.

* `Reachable`: the host objects that can be reached from a value, through its parts and through
  members of host objects;
* `Attainable`: the states that calls between reachable objects lead to;
* `Unforging`: the members, results and defaults of the reachable objects give no other objects;
* `Unforging.of_bundled`: all this holds of the bundled objects;
* `refs_reachable`: then the value of an expression refers to reachable objects only, and so do all
  arguments that methods receive during the run.

What is reachable is taken in the state in which the run starts, and the objects may answer
differently in later states, as long as they give no others.
-/

namespace HostExpr

variable {W : Type}

/-! ### Reachable objects -/

/-- The host objects that can be reached from a value in a state: those that it refers to, and those
that a member of a reachable object refers to. -/
inductive Reachable (hosts : HostInterface W) (state : W) (root : Value) : HostRef → Prop
  | here {ref : HostRef} : ref ∈ root.refs → Reachable hosts state root ref
  | member {ref other : HostRef} {name : String} {v : Value} :
      Reachable hosts state root ref → hosts.member? state ref name = some v → other ∈ v.refs →
      Reachable hosts state root other

/-- The states that methods of reachable objects lead to, as long as they receive reachable objects
only. -/
inductive Attainable (hosts : HostInterface W) (state : W) (root : Value) : W → Prop
  | start : Attainable hosts state root state
  | call {c : Invocation W} :
      Attainable hosts state root c.before → c.Within (Reachable hosts state root) →
      Attainable hosts state root (c.after hosts)

/-- The members of reachable objects give reachable objects only, their methods give these and what
can be reached from the arguments they received, and the defaults of their parameters refer to no
host object. -/
structure Unforging (hosts : HostInterface W) (state : W) (root : Value) : Prop where
  member {s : W} {ref : HostRef} {name : String} {v : Value} :
    Attainable hosts state root s → Reachable hosts state root ref →
    hosts.member? s ref name = some v → v.Within (Reachable hosts state root)
  result {c : Invocation W} {v : Value} {s : W} :
    Attainable hosts state root c.before → c.Within (Reachable hosts state root) →
    hosts.invoke c.ref c.method c.args c.before = .ok v s →
    v.Within fun ref =>
      Reachable hosts state root ref ∨ ∃ a ∈ c.args, Reachable hosts c.before a ref
  default {s : W} {ref : HostRef} {method : String} {params : List Param} {p : Param} {d : Value} :
    Attainable hosts state root s → Reachable hosts state root ref →
    hosts.params? s ref method = some params → p ∈ params → p.default? = some d → d.refs = []

namespace Unforging

variable {hosts : HostInterface W} {state : W} {root : Value}

/-- What can be reached from reachable objects in an attainable state could be reached from the
start. -/
theorem reachable_trans (h : Unforging hosts state root) {s : W}
    (hs : Attainable hosts state root s) {v : Value} (hv : v.Within (Reachable hosts state root))
    {ref : HostRef} (href : Reachable hosts s v ref) : Reachable hosts state root ref := by
  induction href with
  | here hmem => exact hv _ hmem
  | member _ hmember hmem ih => exact h.member hs ih hmember _ hmem

theorem guarded (h : Unforging hosts state root) :
    Guarded hosts (Attainable hosts state root) (Value.Within (Reachable hosts state root)) where
  member hs href hv := h.member hs (Value.within_host.1 href) hv
  default hs href hparams hp hd :=
    Value.within_of_refs_eq_nil (h.default hs (Value.within_host.1 href) hparams hp hd)
  result {c v s} hs hc hv := by
    intro ref href
    rcases h.result hs (Invocation.has_within.1 hc) hv ref href with hreach | ⟨a, ha, hreach⟩
    · exact hreach
    · exact h.reachable_trans hs (hc.2 a ha) hreach
  after hs hc := .call hs (Invocation.has_within.1 hc)

/-- Objects whose types give no references of their own forge none. -/
theorem of_within {σ : Type} {table : HostTable σ} (h : table.Within fun _ => False) :
    Unforging HostTable.interface table root := by
  have hstate : ∀ s, Attainable HostTable.interface table root s → s.Within fun _ => False := by
    intro s hs
    induction hs with
    | start => exact h
    | call _ _ ih => exact HostTable.forall_descriptor_after ih
  constructor
  · intro s ref name v hs _ hv
    exact ((hstate s hs).keeps fun _ => False.elim).member hv
  · intro c v s hs _ hv
    refine ((hstate c.before hs).keeps fun _ => False.elim).result ?_ hv
    exact fun a ha other hother => .inr ⟨a, ha, .here hother⟩
  · intro s ref method params p d hs _ hparams hp hd
    have hnone : d.Within fun _ => False := ((hstate s hs).keeps fun _ => id).default hparams hp hd
    exact List.eq_nil_iff_forall_not_mem.2 hnone

/-- The bundled objects forge no references, whatever the context is. -/
theorem of_bundled {σ : Type} {table : HostTable σ}
    (h : ∀ object ∈ table.objects,
      object.descriptor = TextHost.descriptor ∨ object.descriptor = ListHost.descriptor) :
    Unforging HostTable.interface table root := by
  refine of_within fun object hobject => ?_
  rcases h object hobject with heq | heq
  · exact heq ▸ TextHost.descriptor_within
  · exact heq ▸ ListHost.descriptor_within

end Unforging

/-! ### Whole runs -/

/-- **References cannot be forged.**  If the host objects that can be reached from a context give no
others, the value of an expression refers to reachable objects only, and so does every argument that
a method receives during the run, whether it fails or not.  The bundled objects are of this
kind. -/
theorem refs_reachable (hosts : HostInterface W) (context : Context) (state : W) :
    (Unforging hosts state context.root → ∀ e : Expr,
      (∀ v, (e.run hosts context state).1 = .ok v →
        ∀ ref ∈ v.refs, Reachable hosts state context.root ref) ∧
      ∃ calls, e.run hosts.logged context (state, []) =
          ((e.run hosts context state).1, (e.run hosts context state).2, calls) ∧
        ∀ c ∈ calls, ∀ a ∈ c.args, ∀ ref ∈ a.refs, Reachable hosts state context.root ref) ∧
    ∀ (σ : Type) (table : HostTable σ) (root : Value),
      (∀ object ∈ table.objects,
        object.descriptor = TextHost.descriptor ∨ object.descriptor = ListHost.descriptor) →
      Unforging HostTable.interface table root := by
  refine ⟨fun h e => ?_, fun σ table root hbundled => .of_bundled hbundled⟩
  obtain ⟨hvalue, -, calls, hcalls, hwithin⟩ :=
    h.guarded.run_keeps Value.hereditary_within (fun _ href => .here href) e .start
  exact ⟨hvalue, calls, hcalls, fun c hc => (hwithin c hc).2⟩

/-- A context with the bundled objects and nothing else. -/
def bundledSetup : Setup Unit :=
  (Setup.mk .empty {}).bindBundled ()

/-- The value of `Array.first([String])` is the text object, which the context gives. -/
theorem refs_reachable_first :
    Unforging HostTable.interface bundledSetup.hosts bundledSetup.context.root ∧
    ((Expr.path [.name "Array", .call "first" [.list [.path [.name "String"]]]]).run
      HostTable.interface bundledSetup.context bundledSetup.hosts).1 =
        .ok (.host ⟨0, "String"⟩) ∧
    Reachable HostTable.interface bundledSetup.hosts bundledSetup.context.root ⟨0, "String"⟩ := by
  have h := refs_reachable HostTable.interface bundledSetup.context bundledSetup.hosts
  have hobjects : ∀ object ∈ bundledSetup.hosts.objects,
      object.descriptor = TextHost.descriptor ∨ object.descriptor = ListHost.descriptor := by
    show ∀ object ∈ [(⟨TextHost.descriptor, ()⟩ : HostObject Unit), ⟨ListHost.descriptor, ()⟩], _
    rw [List.forall_mem_cons, List.forall_mem_singleton]
    exact ⟨.inl rfl, .inr rfl⟩
  have hunforging := h.2 Unit bundledSetup.hosts bundledSetup.context.root hobjects
  have hrun : ((Expr.path [.name "Array", .call "first" [.list [.path [.name "String"]]]]).run
      HostTable.interface bundledSetup.context bundledSetup.hosts).1 =
        .ok (.host ⟨0, "String"⟩) :=
    rfl
  refine ⟨hunforging, hrun, (h.1 hunforging _).1 _ hrun _ ?_⟩
  rw [Value.refs]
  exact List.mem_singleton_self _

end HostExpr
