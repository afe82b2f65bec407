import HostExpr.Proofs.Alike
import HostExpr.Proofs.Stateful

/-!
# The gate before every call

No method of a host object runs unless its object allows the call at that moment, declares the
method, and is given one fitting argument for each parameter.

* `ParamKind.Admits`: the kind of a value is the declared one;
* `Fitting`: values that fit the parameters of a method, one for each;
* `Permitted`, `Rejected`: what the checks before a call come to, with `HostInterface.call_cases`;
* `HostInterface.logged`: an interface that keeps a list of the invocations made through it, with
  `get_logged` and `call_logged_cases`, what a member and a call come to there;
* `Trace`: permitted invocations that follow on each other;
* `Expr.run_logged`: keeping the list changes nothing about a run, and all invocations on it are
  permitted;
* `Expr.calls_gated`: the same, and a rejected call does nothing after its arguments.

The gate is asked in the state that the arguments of the call have left, so an argument can close
it.
-/

namespace HostExpr

open Stateful

variable {W : Type}

/-! ### Arguments -/

/-- The kind of the values that a parameter takes, if it does not take all. -/
def ParamKind.kind? : ParamKind → Option Kind
  | any => none
  | boolean => some .boolean
  | number => some .number
  | integer => some .number
  | text => some .text
  | list => some .list
  | map => some .map

/-- A value is of the declared kind. -/
def ParamKind.Admits (kind : ParamKind) (v : Value) : Prop :=
  ∀ k ∈ kind.kind?, v.kind = k

theorem ParamKind.accepts_iff {kind : ParamKind} {v : Value} :
    kind.accepts v = true ↔ kind.Admits v := by
  unfold Admits
  cases kind <;> cases v <;> simp [accepts, kind?, Value.kind]

/-- Values that fit parameters: one for each, of the declared kind. -/
inductive Fitting : List Param → List Value → Prop
  | nil : Fitting [] []
  | cons {param : Param} {params : List Param} {v : Value} {vs : List Value} :
      param.kind.Admits v → Fitting params vs → Fitting (param :: params) (v :: vs)

theorem Param.admits_of_fill {host method : String} {param : Param} {arg? : Option Value}
    {v : Value} (h : param.fill host method arg? = .ok v) : param.kind.Admits v := by
  unfold fill at h
  split at h
  · exact absurd h (by simp)
  · next w _ =>
    split at h
    · next haccepts =>
      obtain rfl : w = v := Except.ok.inj h
      exact ParamKind.accepts_iff.1 haccepts
    · exact absurd h (by simp)

theorem Param.fitting_of_fillAll {host method : String} {params : List Param} :
    ∀ {args vs : List Value}, fillAll host method params args = .ok vs → Fitting params vs := by
  induction params with
  | nil =>
    intro args vs h
    obtain rfl : [] = vs := Except.ok.inj h
    exact .nil
  | cons param params ih =>
    intro args vs h
    rw [fillAll] at h
    cases hv : param.fill host method args.head? with
    | error e =>
      rw [hv] at h
      exact absurd h (by simp [bind, Except.bind])
    | ok v =>
      rw [hv] at h
      cases hvs : fillAll host method params args.tail with
      | error e =>
        rw [hvs] at h
        exact absurd h (by simp [bind, Except.bind])
      | ok ws =>
        rw [hvs] at h
        obtain rfl : v :: ws = vs := Except.ok.inj h
        exact .cons (admits_of_fill hv) (ih hvs)

/-- The values that a method is given fit its parameters, whatever the arguments were. -/
theorem fitting_of_bindArguments {host method : String} {params : List Param}
    {args vs : List Value} (h : bindArguments host method params args = .ok vs) :
    Fitting params vs := by
  unfold bindArguments at h
  split at h
  · exact absurd h (by simp)
  · exact Param.fitting_of_fillAll h

/-! ### The checks -/

/-- A method that is run, the values that it is given, and the state of the host objects in which
it starts. -/
structure Invocation (W : Type) where
  before : W
  ref : HostRef
  method : String
  args : List Value

/-- The object allows the call in the state in which the method starts, it declares the method, and
there is one argument of the declared kind for each parameter. -/
structure Permitted (hosts : HostInterface W) (c : Invocation W) : Prop where
  allowed : hosts.allows c.before c.ref c.method
  fitting : ∃ params, hosts.params? c.before c.ref c.method = some params ∧ Fitting params c.args

/-- Why a call is rejected in a state: the object does not allow it, does not declare the method, or
the arguments cannot be bound to the parameters. -/
inductive Rejected (hosts : HostInterface W) (state : W) (ref : HostRef) (method : String)
    (args : List Value) : EvalError → Prop
  | gate : hosts.allows state ref method = false →
      Rejected hosts state ref method args (.methodNotAllowed ref.typeName method)
  | existence : hosts.allows state ref method → hosts.params? state ref method = none →
      Rejected hosts state ref method args (.unknownMethod ref.typeName method)
  | binding {params : List Param} {e : EvalError} : hosts.allows state ref method →
      hosts.params? state ref method = some params →
      bindArguments ref.typeName method params args = .error e →
      Rejected hosts state ref method args e

/-- What a method is given when its object allows the call and declares the method, and the
arguments can be bound to the parameters. -/
structure Admitted (hosts : HostInterface W) (state : W) (ref : HostRef) (method : String)
    (args bound : List Value) : Prop where
  allowed : hosts.allows state ref method
  binding : ∃ params, hosts.params? state ref method = some params ∧
    bindArguments ref.typeName method params args = .ok bound

theorem Admitted.permitted {hosts : HostInterface W} {state : W} {ref : HostRef} {method : String}
    {args bound : List Value} (h : Admitted hosts state ref method args bound) :
    Permitted hosts ⟨state, ref, method, bound⟩ := by
  obtain ⟨hallows, params, hparams, hbind⟩ := h
  exact ⟨hallows, params, hparams, fitting_of_bindArguments hbind⟩

namespace HostInterface

variable (hosts : HostInterface W) {state : W} {ref : HostRef} {method : String} {args : List Value}

theorem rejected_or_admitted (state : W) (ref : HostRef) (method : String) (args : List Value) :
    (∃ e, Rejected hosts state ref method args e) ∨
      ∃ bound, Admitted hosts state ref method args bound := by
  cases hallows : hosts.allows state ref method with
  | false => exact .inl ⟨_, .gate hallows⟩
  | true =>
    cases hparams : hosts.params? state ref method with
    | none => exact .inl ⟨_, .existence hallows hparams⟩
    | some params =>
      cases hbind : bindArguments ref.typeName method params args with
      | error e => exact .inl ⟨e, .binding hallows hparams hbind⟩
      | ok bound => exact .inr ⟨bound, hallows, params, hparams, hbind⟩

/-- A rejected call fails and leaves the state alone. -/
theorem call_of_rejected {e : EvalError} (h : Rejected hosts state ref method args e) :
    hosts.call ref method args state = .error e state := by
  have hget : (get : Eval W W) state = .ok state state := rfl
  unfold call
  rw [bind_of_ok hget]
  cases h with
  | gate hallows =>
    rw [hallows]
    rfl
  | existence hallows hparams =>
    rw [if_pos hallows, hparams]
    rfl
  | binding hallows hparams hbind =>
    rw [if_pos hallows, hparams]
    show EStateM.bind (Eval.ofExcept _) _ state = _
    rw [hbind]
    rfl

/-- An admitted call runs the method, in the state of the call. -/
theorem call_of_admitted {bound : List Value} (h : Admitted hosts state ref method args bound) :
    hosts.call ref method args state = hosts.invoke ref method bound state := by
  obtain ⟨hallows, params, hparams, hbind⟩ := h
  have hget : (get : Eval W W) state = .ok state state := rfl
  unfold call
  rw [bind_of_ok hget, if_pos hallows, hparams]
  show EStateM.bind (Eval.ofExcept _) _ state = _
  rw [hbind]
  rfl

end HostInterface

/-! ### Keeping a list -/

/-- The state in which a computation ends. -/
def endState {ε σ α : Type} : EStateM.Result ε σ α → σ
  | .ok _ s => s
  | .error _ s => s

/-- The state in which an invocation ends. -/
def Invocation.after (hosts : HostInterface W) (c : Invocation W) : W :=
  endState (hosts.invoke c.ref c.method c.args c.before)

/-- The same host objects, with a list of all invocations so far. -/
def HostInterface.logged (hosts : HostInterface W) : HostInterface (W × List (Invocation W)) where
  allows state := hosts.allows state.1
  member? state := hosts.member? state.1
  params? state := hosts.params? state.1
  invoke ref method args := fun (state, calls) =>
    match hosts.invoke ref method args state with
    | .ok v after => .ok v (after, calls ++ [⟨state, ref, method, args⟩])
    | .error e after => .error e (after, calls ++ [⟨state, ref, method, args⟩])

/-- A result with a list of invocations beside its state. -/
def withLog {α : Type} (log : List (Invocation W)) :
    EStateM.Result EvalError W α → EStateM.Result EvalError (W × List (Invocation W)) α
  | .ok x s => .ok x (s, log)
  | .error e s => .error e (s, log)

/-- Permitted invocations one after another: each starts in the state that the one before has left,
and the states change in no other way. -/
inductive Trace (hosts : HostInterface W) (start : W) : List (Invocation W) → W → Prop
  | nil : Trace hosts start [] start
  | snoc {calls : List (Invocation W)} {c : Invocation W} :
      Trace hosts start calls c.before → Permitted hosts c →
      Trace hosts start (calls ++ [c]) (c.after hosts)

/-- A state with a list of invocations that lead to it, and the same state without the list. -/
def Recorded (hosts : HostInterface W) (start : W) (s : W × List (Invocation W)) (state : W) :
    Prop :=
  s.1 = state ∧ Trace hosts start s.2 state

theorem lookup_logged (hosts : HostInterface W) (s : W × List (Invocation W)) (key : Key)
    (v : Value) : v.lookup hosts.logged s key = v.lookup hosts s.1 key := by
  cases v <;> rfl

theorem rejected_logged {hosts : HostInterface W} {s : W × List (Invocation W)} {ref : HostRef}
    {method : String} {args : List Value} {e : EvalError}
    (h : Rejected hosts s.1 ref method args e) : Rejected hosts.logged s ref method args e := by
  cases h with
  | gate hallows => exact .gate hallows
  | existence hallows hparams => exact .existence hallows hparams
  | binding hallows hparams hbind => exact .binding hallows hparams hbind

theorem admitted_logged {hosts : HostInterface W} {s : W × List (Invocation W)} {ref : HostRef}
    {method : String} {args bound : List Value} (h : Admitted hosts s.1 ref method args bound) :
    Admitted hosts.logged s ref method args bound :=
  ⟨h.allowed, h.binding⟩

theorem Value.get_apply (hosts : HostInterface W) (key : Key) (v : Value) (s : W) :
    v.get hosts key s = Eval.ofExcept (v.lookup hosts s key) s :=
  rfl

/-- Reading a member does the same with the list, and leaves the list alone. -/
theorem get_logged (hosts : HostInterface W) (key : Key) (v : Value) (s : W)
    (log : List (Invocation W)) :
    v.get hosts.logged key (s, log) = withLog log (v.get hosts key s) := by
  rw [Value.get_apply, Value.get_apply, lookup_logged]
  cases v.lookup hosts s key with
  | ok w => rfl
  | error e => rfl

theorem invoke_logged (hosts : HostInterface W) (ref : HostRef) (method : String)
    (bound : List Value) (s : W) (log : List (Invocation W)) :
    hosts.logged.invoke ref method bound (s, log) =
      withLog (log ++ [⟨s, ref, method, bound⟩]) (hosts.invoke ref method bound s) := by
  unfold HostInterface.logged
  simp only
  cases hosts.invoke ref method bound s with
  | ok v t => rfl
  | error e t => rfl

/-- A call is one of null, which does nothing; or it is refused; or it is admitted and invokes its
method, and then the invocation is written down. -/
theorem call_logged_cases (hosts : HostInterface W) (v : Value) (method : String)
    (args : List Value) (s : W) :
    v = .null ∨
    (∃ e, v.call hosts method args s = .error e s ∧
      ∀ log, v.call hosts.logged method args (s, log) = .error e (s, log)) ∨
    ∃ ref bound, v = .host ref ∧ Admitted hosts s ref method args bound ∧
      v.call hosts method args s = hosts.invoke ref method bound s ∧
      ∀ log, v.call hosts.logged method args (s, log) =
        withLog (log ++ [⟨s, ref, method, bound⟩]) (hosts.invoke ref method bound s) := by
  cases v with
  | null => exact .inl rfl
  | host ref =>
    rcases hosts.rejected_or_admitted s ref method args with ⟨e, hreject⟩ | ⟨bound, hpassed⟩
    · refine .inr (.inl ⟨e, hosts.call_of_rejected hreject, fun log => ?_⟩)
      exact hosts.logged.call_of_rejected (rejected_logged hreject)
    · refine .inr (.inr ⟨ref, bound, rfl, hpassed, hosts.call_of_admitted hpassed, fun log => ?_⟩)
      exact (hosts.logged.call_of_admitted (admitted_logged hpassed)).trans
        (invoke_logged hosts ref method bound s log)
  | boolean _ | number _ | text _ | list _ | map _ =>
    exact .inr (.inl ⟨_, rfl, fun _ => rfl⟩)

/-- A result with a list beside its state is the result without the list. -/
theorem sameResult_withLog {α : Type} {R : W × List (Invocation W) → W → Prop}
    {log : List (Invocation W)} {r : EStateM.Result EvalError W α}
    (h : R (endState r, log) (endState r)) : SameResult R (withLog log r) r := by
  cases r with
  | ok x s => exact .ok h
  | error e s => exact .error h

/-- Members and calls are alike with and without the list. -/
theorem alike_logged (hosts : HostInterface W) (start : W) :
    AlikeHosts (Recorded hosts start) hosts.logged hosts := by
  constructor
  · rintro v key ⟨s, log⟩ _ ⟨rfl, htrace⟩
    rw [get_logged, Value.get_apply]
    refine sameResult_withLog ⟨rfl, ?_⟩
    cases v.lookup hosts s key with
    | ok w => exact htrace
    | error e => exact htrace
  · rintro v method args ⟨s, log⟩ _ ⟨rfl, htrace⟩
    rcases call_logged_cases hosts v method args s with
      rfl | ⟨e, hplain, hlogged⟩ | ⟨ref, bound, -, hpassed, hplain, hlogged⟩
    · exact .ok ⟨rfl, htrace⟩
    · rw [hplain, hlogged]
      exact .error ⟨rfl, htrace⟩
    · rw [hplain, hlogged]
      exact sameResult_withLog ⟨rfl, htrace.snoc hpassed.permitted⟩

/-! ### Whole runs -/

namespace Expr

/-- Keeping the list changes neither the result of a run nor the state of the host objects, and the
invocations on it are permitted and lead from the first state to the last. -/
theorem run_logged (hosts : HostInterface W) (context : Context) (e : Expr) (state : W) :
    ∃ calls, e.run hosts.logged context (state, []) =
        ((e.run hosts context state).1, (e.run hosts context state).2, calls) ∧
      Trace hosts state calls (e.run hosts context state).2 := by
  have hstart : Recorded hosts state (state, []) state := ⟨rfl, .nil⟩
  obtain ⟨hvalue, hstate, htrace⟩ := run_alike (alike_logged hosts state) context e hstart
  exact ⟨_, Prod.ext hvalue (Prod.ext hstate rfl), htrace⟩

/-- A rejected call does nothing after its arguments. -/
theorem call_eval_of_rejected (hosts : HostInterface W) (root : Value) {ref : HostRef}
    {method : String} {args : List Expr} {vs : List Value} {error : EvalError} {s s' : W}
    (hargs : evalItems hosts root args s = .ok vs s')
    (h : Rejected hosts s' ref method vs error) :
    (Segment.call method args).eval hosts root (.host ref) s = .error error s' := by
  rw [Segment.eval, bind_of_ok hargs]
  exact hosts.call_of_rejected h

/-- **Every call passes the gate.**  In a run of an expression, each invocation of a method is
permitted in the state in which it starts, and these invocations are all that happens to the host
objects.  A rejected call invokes nothing: it fails in the state, and with the invocations, that
its arguments have left. -/
theorem calls_gated (hosts : HostInterface W) (context : Context) (e : Expr) (state : W) :
    (∃ calls, e.run hosts.logged context (state, []) =
        ((e.run hosts context state).1, (e.run hosts context state).2, calls) ∧
      Trace hosts state calls (e.run hosts context state).2) ∧
    ∀ (ref : HostRef) (method : String) (args : List Expr) (vs : List Value) (error : EvalError)
      (s s' : W × List (Invocation W)),
      evalItems hosts.logged context.root args s = .ok vs s' →
      Rejected hosts s'.1 ref method vs error →
      (Segment.call method args).eval hosts.logged context.root (.host ref) s =
        .error error s' := by
  refine ⟨run_logged hosts context e state, ?_⟩
  intro ref method args vs error s s' hargs hreject
  exact call_eval_of_rejected hosts.logged context.root hargs (rejected_logged hreject)

/-- An object that is frozen by every call and allows none once it is frozen.  Only `pay` has a
parameter. -/
def freezing : HostInterface Bool where
  allows frozen _ _ := !frozen
  member? _ _ _ := none
  params? _ _ method := some (if method = "pay" then [⟨"amount", .number, none⟩] else [])
  invoke _ _ _ := fun _ => .ok .null true

/-- The argument of the outer call of `pay(pay(2))` closes the gate for the call itself, after the inner
one has got the number 2 for its parameter. -/
theorem calls_gated_freezing :
    ((path [.call "pay" [.path [.call "pay" [.number 2.0]]]]).run freezing.logged
        ⟨.host ⟨0, "account"⟩⟩ (false, []) =
          (.error (.methodNotAllowed "account" "pay"), true,
            [⟨false, ⟨0, "account"⟩, "pay", [.number 2.0]⟩]) ∧
      Trace freezing false [⟨false, ⟨0, "account"⟩, "pay", [.number 2.0]⟩] true) ∧
    (Segment.call "pay" [.path [.call "pay" [.number 2.0]]]).eval freezing.logged
      (.host ⟨0, "account"⟩) (.host ⟨0, "account"⟩) (false, []) =
        .error (.methodNotAllowed "account" "pay")
          (true, [⟨false, ⟨0, "account"⟩, "pay", [.number 2.0]⟩]) := by
  obtain ⟨⟨calls, hrun, htrace⟩, hrejected⟩ := calls_gated freezing ⟨.host ⟨0, "account"⟩⟩
    (path [.call "pay" [.path [.call "pay" [.number 2.0]]]]) false
  have hargs : evalItems freezing.logged (.host ⟨0, "account"⟩) [.path [.call "pay" [.number 2.0]]]
      (false, []) = .ok [.null] (true, [⟨false, ⟨0, "account"⟩, "pay", [.number 2.0]⟩]) := rfl
  have hcalls : calls = [⟨false, ⟨0, "account"⟩, "pay", [.number 2.0]⟩] :=
    (congrArg (·.2.2) hrun).symm
  subst hcalls
  exact ⟨⟨hrun, htrace⟩, hrejected _ _ _ _ _ _ _ hargs (.gate rfl)⟩

end Expr

end HostExpr
