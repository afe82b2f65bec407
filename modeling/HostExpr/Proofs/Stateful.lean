/-!
# Computations with a state, one after another

How a computation that may fail runs, for proofs that follow it step by step.

* `Stateful.bind_eq_ok`, `Stateful.map_eq_ok`, `Stateful.pure_eq_ok`: what a result tells about the
  steps that led to it;
* `Stateful.bind_of_ok`, `Stateful.bind_of_error`: what comes after a step with a known result;
* `Stateful.bind_congr_left`, `Stateful.bind_congr_right`: steps that do the same in one state.
-/

namespace HostExpr.Stateful

variable {ε σ α β : Type} {s s' : σ}

theorem pure_eq_ok {x y : α} : (pure x : EStateM ε σ α) s = .ok y s' ↔ x = y ∧ s = s' := by
  show EStateM.Result.ok x s = .ok y s' ↔ _
  rw [EStateM.Result.ok.injEq]

theorem bind_eq_ok {p : EStateM ε σ α} {f : α → EStateM ε σ β} {y : β} :
    (p >>= f) s = .ok y s' ↔ ∃ x t, p s = .ok x t ∧ f x t = .ok y s' := by
  show EStateM.bind p f s = .ok y s' ↔ _
  unfold EStateM.bind
  cases p s with
  | ok x t =>
    constructor
    · intro h
      exact ⟨x, t, rfl, h⟩
    · rintro ⟨_, _, ⟨rfl, rfl⟩, h⟩
      exact h
  | error e t => simp

theorem bind_of_ok {p : EStateM ε σ α} {f : α → EStateM ε σ β} {x : α} (h : p s = .ok x s') :
    (p >>= f) s = f x s' := by
  show EStateM.bind p f s = f x s'
  unfold EStateM.bind
  rw [h]

theorem bind_of_error {p : EStateM ε σ α} {f : α → EStateM ε σ β} {e : ε}
    (h : p s = .error e s') : (p >>= f) s = .error e s' := by
  show EStateM.bind p f s = .error e s'
  unfold EStateM.bind
  rw [h]

/-- What comes after a step may differ where the step does not lead. -/
theorem bind_congr_right {p : EStateM ε σ α} {f g : α → EStateM ε σ β}
    (h : ∀ x s', p s = .ok x s' → f x s' = g x s') : (p >>= f) s = (p >>= g) s := by
  cases hp : p s with
  | ok x s' => rw [bind_of_ok hp, bind_of_ok hp, h x s' hp]
  | error e s' => rw [bind_of_error hp, bind_of_error hp]

theorem bind_congr_left {p q : EStateM ε σ α} {f : α → EStateM ε σ β} (h : p s = q s) :
    (p >>= f) s = (q >>= f) s := by
  cases hp : p s with
  | ok x s' => rw [bind_of_ok hp, bind_of_ok (h.symm.trans hp)]
  | error e s' => rw [bind_of_error hp, bind_of_error (h.symm.trans hp)]

theorem map_eq_ok {p : EStateM ε σ α} {f : α → β} {y : β} :
    (f <$> p) s = .ok y s' ↔ ∃ x, p s = .ok x s' ∧ f x = y := by
  show EStateM.map f p s = .ok y s' ↔ _
  unfold EStateM.map
  cases p s with
  | ok x t =>
    simp only [EStateM.Result.ok.injEq]
    constructor
    · rintro ⟨rfl, rfl⟩
      exact ⟨x, ⟨rfl, rfl⟩, rfl⟩
    · rintro ⟨_, ⟨rfl, rfl⟩, rfl⟩
      exact ⟨rfl, rfl⟩
  | error e t => simp

theorem map_of_error {p : EStateM ε σ α} {f : α → β} {e : ε} (h : p s = .error e s') :
    (f <$> p) s = .error e s' := by
  show EStateM.map f p s = .error e s'
  unfold EStateM.map
  rw [h]

theorem throw_ne_ok {e : ε} {x : α} : (throw e : EStateM ε σ α) s ≠ .ok x s' := by
  intro h
  injection h

end HostExpr.Stateful
