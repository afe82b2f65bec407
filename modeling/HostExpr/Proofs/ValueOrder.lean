import HostExpr.Eval
import HostExpr.Proofs.Stateful
import HostExpr.Proofs.ValueEquality

/-!
# Comparisons of values

Numbers other than NaN and texts are ranked, the numbers among themselves and the texts among themselves,
and a comparison of two values is one of their ranks.  So the six comparisons agree with each other, and
with equality where it is about values with a rank.

* `Value.rank?`: the rank of a value;
* `Value.order?_eq_some_iff`: the order of two values is that of their ranks;
* `Value.exists_rank?_of_beq`, `Value.beq_of_rank?`: equality and ranks;
* `Value.Comparable`: the pairs of values that can be ordered;
* `CompareOp.holds_less`, `CompareOp.holds_lessEqual`, `CompareOp.holds_greater`,
  `CompareOp.holds_greaterEqual`: the comparisons in terms of ranks;
* `Expr.eval_compare`, `Expr.eval_compare_eq_error`: a comparison has a value if its sides have one;
* `CompareOp.holds_laws`: how the six comparisons go together.
-/

namespace HostExpr

/-! ### Ranks -/

section Compares

variable {α β : Type} [LT α] [LT β] {o : Ordering}

theorem compares_inl {r s : α} : o.Compares (Sum.inl r : α ⊕ β) (.inl s) ↔ o.Compares r s := by
  cases o <;> simp [Ordering.Compares]

theorem compares_inr {r s : β} : o.Compares (Sum.inr r : α ⊕ β) (.inr s) ↔ o.Compares r s := by
  cases o <;> simp [Ordering.Compares]

theorem not_compares_inl_inr {r : α} {s : β} : ¬o.Compares (Sum.inl r) (Sum.inr s) := by
  cases o <;> simp [Ordering.Compares]

theorem not_compares_inr_inl {r : α} {s : β} : ¬o.Compares (Sum.inr s) (Sum.inl r) := by
  cases o <;> simp [Ordering.Compares]

end Compares

namespace Value

/-- What a value is ordered by.  Numbers have no order with texts, and NaN and the values of all other
kinds have no rank. -/
def rank? : Value → Option (WithBotTop ℚ ⊕ String)
  | number x => (Number.extended? x).map .inl
  | text s => some (.inr s)
  | _ => none

theorem orderNumbers?_eq_some_iff {x y : Float} {o : Ordering} :
    orderNumbers? x y = some o ↔
      ∃ r s, Number.extended? x = some r ∧ Number.extended? y = some s ∧ o.Compares r s := by
  have hlt := Number.lt_iff_extended (x := x) (y := y)
  have heq := Number.beq_iff_extended (x := x) (y := y)
  have hgt := Number.lt_iff_extended (x := y) (y := x)
  cases hx : Number.extended? x with
  | none => simp [orderNumbers?, hlt, heq, hgt, hx]
  | some r =>
    cases hy : Number.extended? y with
    | none => simp [orderNumbers?, hlt, heq, hgt, hy]
    | some s =>
      simp only [hx, hy, Option.some.injEq, exists_and_left, exists_eq_left'] at hlt heq hgt ⊢
      have horder : orderNumbers? x y = some (compare r s) := by
        rcases lt_trichotomy r s with h | h | h
        · rw [orderNumbers?, if_pos (hlt.2 h), compare_lt_iff_lt.2 h]
        · rw [orderNumbers?, if_neg (mt hlt.1 h.not_lt), if_pos (heq.2 h.symm), compare_eq_iff_eq.2 h]
        · rw [orderNumbers?, if_neg (mt hlt.1 h.not_gt), if_neg (mt heq.1 h.ne), if_pos (hgt.2 h),
            compare_gt_iff_gt.2 h]
      rw [horder, Option.some.injEq, compare_iff]

/-- Two values are ordered as their ranks are. -/
theorem order?_eq_some_iff {v w : Value} {o : Ordering} :
    v.order? w = some o ↔ ∃ r s, v.rank? = some r ∧ w.rank? = some s ∧ o.Compares r s := by
  cases v with
  | number x =>
    cases w with
    | number y =>
      simp only [order?, orderNumbers?_eq_some_iff, rank?, Option.map_eq_some_iff]
      constructor
      · rintro ⟨r, s, hx, hy, h⟩
        exact ⟨_, _, ⟨r, hx, rfl⟩, ⟨s, hy, rfl⟩, compares_inl.2 h⟩
      · rintro ⟨_, _, ⟨r, hx, rfl⟩, ⟨s, hy, rfl⟩, h⟩
        exact ⟨r, s, hx, hy, compares_inl.1 h⟩
    | text t => simp [order?, rank?, not_compares_inl_inr]
    | _ => simp [order?, rank?]
  | text s =>
    cases w with
    | text t => simp [order?, rank?, compares_inr, compare_iff]
    | number y => simp [order?, rank?, not_compares_inr_inl]
    | _ => simp [order?, rank?]
  | _ => simp [order?, rank?]

theorem order?_swap {v w : Value} {o : Ordering} :
    v.order? w = some o.swap ↔ w.order? v = some o := by
  simp only [order?_eq_some_iff, Ordering.compares_swap]
  constructor
  · rintro ⟨r, s, hv, hw, h⟩
    exact ⟨s, r, hw, hv, h⟩
  · rintro ⟨s, r, hw, hv, h⟩
    exact ⟨r, s, hv, hw, h⟩

/-! ### Ranks and equality -/

/-- Equal numbers and equal texts have the same rank. -/
theorem exists_rank?_of_beq {v w : Value} (h : (v == w) = true)
    (hkind : v.kind = .number ∨ v.kind = .text) : ∃ r, v.rank? = some r ∧ w.rank? = some r := by
  cases beq_iff.1 h with
  | number h =>
    obtain ⟨r, hx, hy⟩ := Number.beq_iff_extended.1 h
    exact ⟨.inl r, by rw [rank?, hx, Option.map_some], by rw [rank?, hy, Option.map_some]⟩
  | text s => exact ⟨.inr s, rfl, rfl⟩
  | _ => simp [kind] at hkind

/-- Values of the same rank are equal. -/
theorem beq_of_rank? {v w : Value} {r : WithBotTop ℚ ⊕ String} (hv : v.rank? = some r)
    (hw : w.rank? = some r) : (v == w) = true := by
  cases v with
  | number x =>
    obtain ⟨p, hx, rfl⟩ := Option.map_eq_some_iff.1 hv
    cases w with
    | number y =>
      obtain ⟨q, hy, hqp⟩ := Option.map_eq_some_iff.1 hw
      obtain rfl := Sum.inl_injective hqp
      exact beq_iff.2 (.number (Number.beq_iff_extended.2 ⟨q, hx, hy⟩))
    | text t => cases hw
    | _ => cases hw
  | text s =>
    obtain rfl := Option.some.inj hv
    cases w with
    | number y =>
      obtain ⟨q, -, hqs⟩ := Option.map_eq_some_iff.1 hw
      cases hqs
    | text t =>
      obtain rfl := Sum.inr_injective (Option.some.inj hw)
      exact beq_iff.2 (.text t)
    | _ => cases hw
  | _ => cases hv

/-- Two values between which there is an order: two texts, or two numbers other than NaN. -/
inductive Comparable : Value → Value → Prop
  | numbers {x y : Float} : x.isNaN = false → y.isNaN = false → Comparable (number x) (number y)
  | texts (s t : String) : Comparable (text s) (text t)

theorem kind_of_rank? {v : Value} {r : WithBotTop ℚ ⊕ String} (h : v.rank? = some r) :
    v.kind = .number ∨ v.kind = .text := by
  cases v with
  | number x => exact .inl rfl
  | text s => exact .inr rfl
  | _ => cases h

theorem rank?_eq_of_beq {v w : Value} {r s : WithBotTop ℚ ⊕ String} (h : (v == w) = true)
    (hv : v.rank? = some r) (hw : w.rank? = some s) : r = s := by
  obtain ⟨t, ht, ht'⟩ := exists_rank?_of_beq h (kind_of_rank? hv)
  rw [hv] at ht
  rw [hw] at ht'
  exact Option.some.inj (ht.trans ht'.symm)

theorem Comparable.trichotomy {v w : Value} (h : Comparable v w) :
    ∃ r s, v.rank? = some r ∧ w.rank? = some s ∧ (r < s ∨ r = s ∨ s < r) := by
  cases h with
  | @numbers x y hx hy =>
    rw [← Bool.not_eq_true, Number.isNaN_iff_extended, ← ne_eq, Option.ne_none_iff_exists'] at hx hy
    obtain ⟨p, hp⟩ := hx
    obtain ⟨q, hq⟩ := hy
    refine ⟨.inl p, .inl q, by rw [rank?, hp, Option.map_some], by rw [rank?, hq, Option.map_some], ?_⟩
    rcases lt_trichotomy p q with h | rfl | h
    · exact .inl (Sum.inl_lt_inl_iff.2 h)
    · exact .inr (.inl rfl)
    · exact .inr (.inr (Sum.inl_lt_inl_iff.2 h))
  | texts s t =>
    refine ⟨.inr s, .inr t, rfl, rfl, ?_⟩
    rcases lt_trichotomy s t with h | rfl | h
    · exact .inl (Sum.inr_lt_inr_iff.2 h)
    · exact .inr (.inl rfl)
    · exact .inr (.inr (Sum.inr_lt_inr_iff.2 h))

end Value

/-! ### The six comparisons -/

namespace CompareOp

variable {u v w : Value}

theorem holds_less :
    holds .less v w = true ↔ ∃ r s, v.rank? = some r ∧ w.rank? = some s ∧ r < s := by
  rw [holds, beq_iff_eq, Value.order?_eq_some_iff]
  rfl

theorem holds_lessEqual :
    holds .lessEqual v w = true ↔ ∃ r s, v.rank? = some r ∧ w.rank? = some s ∧ r ≤ s := by
  rw [holds, Bool.or_eq_true, beq_iff_eq, beq_iff_eq, Value.order?_eq_some_iff,
    Value.order?_eq_some_iff]
  simp only [le_iff_lt_or_eq, and_or_left, exists_or]
  rfl

theorem holds_greater : holds .greater v w = holds .less w v := by
  rw [Bool.eq_iff_iff, holds, holds, beq_iff_eq, beq_iff_eq]
  exact Value.order?_swap (o := .lt)

theorem holds_greaterEqual : holds .greaterEqual v w = holds .lessEqual w v := by
  rw [Bool.eq_iff_iff, holds, holds, Bool.or_eq_true, Bool.or_eq_true]
  simp only [beq_iff_eq]
  exact or_congr (Value.order?_swap (o := .lt)) (Value.order?_swap (o := .eq))

theorem not_holds_less_self : holds .less v v = false := by
  rw [← Bool.not_eq_true, holds_less]
  rintro ⟨r, s, hr, hs, h⟩
  rw [hr] at hs
  exact h.ne (Option.some.inj hs)

/-- Ranks that stand in a transitive relation. -/
theorem rank?_trans {R : WithBotTop ℚ ⊕ String → WithBotTop ℚ ⊕ String → Prop}
    (htrans : ∀ {r s t}, R r s → R s t → R r t)
    (h : ∃ r s, u.rank? = some r ∧ v.rank? = some s ∧ R r s)
    (h' : ∃ r s, v.rank? = some r ∧ w.rank? = some s ∧ R r s) :
    ∃ r s, u.rank? = some r ∧ w.rank? = some s ∧ R r s := by
  obtain ⟨r, s, hr, hs, hrs⟩ := h
  obtain ⟨s', t, hs', ht, hst⟩ := h'
  rw [hs] at hs'
  obtain rfl := Option.some.inj hs'
  exact ⟨r, t, hr, ht, htrans hrs hst⟩

theorem holds_less_trans (h : holds .less u v = true) (h' : holds .less v w = true) :
    holds .less u w = true :=
  holds_less.2 (rank?_trans lt_trans (holds_less.1 h) (holds_less.1 h'))

theorem holds_lessEqual_trans (h : holds .lessEqual u v = true) (h' : holds .lessEqual v w = true) :
    holds .lessEqual u w = true :=
  holds_lessEqual.2 (rank?_trans le_trans (holds_lessEqual.1 h) (holds_lessEqual.1 h'))

theorem not_holds_less_and_greater : ¬(holds .less v w = true ∧ holds .greater v w = true) := by
  rintro ⟨hless, hgreater⟩
  have hself := holds_less_trans hless (holds_greater ▸ hgreater)
  exact Bool.false_ne_true (not_holds_less_self.symm.trans hself)

theorem not_holds_less_and_equal : ¬(holds .less v w = true ∧ holds .equal v w = true) := by
  rintro ⟨hless, hequal⟩
  obtain ⟨r, s, hr, hs, hlt⟩ := holds_less.1 hless
  exact hlt.ne (Value.rank?_eq_of_beq hequal hr hs)

theorem not_holds_equal_and_greater :
    ¬(holds .equal v w = true ∧ holds .greater v w = true) := by
  rintro ⟨hequal, hgreater⟩
  obtain ⟨s, r, hs, hr, hlt⟩ := holds_less.1 (holds_greater ▸ hgreater)
  exact hlt.ne' (Value.rank?_eq_of_beq hequal hr hs)

/-- Of two values that can be ordered, one is less than the other or they are equal. -/
theorem holds_of_comparable (h : Value.Comparable v w) :
    holds .less v w = true ∨ holds .equal v w = true ∨ holds .greater v w = true := by
  rw [holds_greater]
  obtain ⟨r, s, hr, hs, hlt | rfl | hgt⟩ := h.trichotomy
  · exact .inl (holds_less.2 ⟨r, s, hr, hs, hlt⟩)
  · exact .inr (.inl (Value.beq_of_rank? hr hs))
  · exact .inr (.inr (holds_less.2 ⟨s, r, hs, hr, hgt⟩))

/-- A value is at most another if it is less, or if it is equal and they are numbers or texts. -/
theorem holds_lessEqual_iff :
    holds .lessEqual v w = true ↔ holds .less v w = true ∨ holds .equal v w = true ∧
      (v.kind = .number ∧ w.kind = .number ∨ v.kind = .text ∧ w.kind = .text) := by
  constructor
  · intro h
    obtain ⟨r, s, hr, hs, hle⟩ := holds_lessEqual.1 h
    rcases hle.lt_or_eq with hlt | rfl
    · exact .inl (holds_less.2 ⟨r, s, hr, hs, hlt⟩)
    · have hbeq := Value.beq_of_rank? hr hs
      have hkind := Value.kind_eq_of_beq hbeq
      refine .inr ⟨hbeq, ?_⟩
      rw [← hkind, and_self, and_self]
      exact Value.kind_of_rank? hr
  · rintro (h | ⟨hequal, hkind⟩)
    · obtain ⟨r, s, hr, hs, hlt⟩ := holds_less.1 h
      exact holds_lessEqual.2 ⟨r, s, hr, hs, hlt.le⟩
    · obtain ⟨r, hr, hr'⟩ := Value.exists_rank?_of_beq hequal (hkind.imp And.left And.left)
      exact holds_lessEqual.2 ⟨r, r, hr, hr', le_rfl⟩

end CompareOp

/-! ### Evaluated comparisons -/

section Evaluation

variable {W : Type} {hosts : HostInterface W} {root : Value} {op : CompareOp} {left right : Expr}
  {st st' st'' : W}

/-- A comparison has a value as soon as both of its sides have one. -/
theorem Expr.eval_compare {v w : Value} (hleft : left.eval hosts root st = .ok v st')
    (hright : right.eval hosts root st' = .ok w st'') :
    (Expr.compare op left right).eval hosts root st = .ok (.boolean (op.holds v w)) st'' := by
  rw [Expr.eval, Stateful.bind_of_ok hleft, Stateful.bind_of_ok hright]
  rfl

/-- A comparison fails only where one of its sides fails. -/
theorem Expr.eval_compare_eq_error {e : EvalError}
    (h : (Expr.compare op left right).eval hosts root st = .error e st'') :
    left.eval hosts root st = .error e st'' ∨
      ∃ v st', left.eval hosts root st = .ok v st' ∧ right.eval hosts root st' = .error e st'' := by
  cases hleft : left.eval hosts root st with
  | error e' st' =>
    rw [Expr.eval, Stateful.bind_of_error hleft] at h
    exact .inl h
  | ok v st' =>
    cases hright : right.eval hosts root st' with
    | error e' t =>
      rw [Expr.eval, Stateful.bind_of_ok hleft, Stateful.bind_of_error hright] at h
      exact .inr ⟨v, st', rfl, hright.trans h⟩
    | ok w t =>
      rw [Expr.eval_compare hleft hright] at h
      cases h

end Evaluation

/-- The six comparisons go together: `>` and `>=` are `<` and `<=` the other way round, `<` is a strict
order, `<=` is transitive, at most one of `<`, `==` and `>` holds and exactly one between two texts or two
numbers other than NaN, `<=` is `<` or `==` of two numbers or two texts, and `!=` is the negation of `==`.
Evaluated on two sides that have values a comparison has a value; it fails only where a side fails. -/
theorem CompareOp.holds_laws (a b c : Value) :
    holds .less a b = holds .greater b a ∧
    holds .lessEqual a b = holds .greaterEqual b a ∧
    holds .less a a = false ∧
    (holds .less a b = true → holds .less b c = true → holds .less a c = true) ∧
    (holds .lessEqual a b = true → holds .lessEqual b c = true → holds .lessEqual a c = true) ∧
    ¬(holds .less a b = true ∧ holds .equal a b = true) ∧
    ¬(holds .less a b = true ∧ holds .greater a b = true) ∧
    ¬(holds .equal a b = true ∧ holds .greater a b = true) ∧
    (Value.Comparable a b →
      holds .less a b = true ∨ holds .equal a b = true ∨ holds .greater a b = true) ∧
    (holds .lessEqual a b = true ↔ holds .less a b = true ∨ holds .equal a b = true ∧
      (a.kind = .number ∧ b.kind = .number ∨ a.kind = .text ∧ b.kind = .text)) ∧
    holds .notEqual a b = !holds .equal a b ∧
    (∀ (W : Type) (hosts : HostInterface W) (root : Value) (op : CompareOp) (left right : Expr)
        (st st' st'' : W), left.eval hosts root st = .ok a st' → right.eval hosts root st' = .ok b st'' →
      (Expr.compare op left right).eval hosts root st = .ok (.boolean (op.holds a b)) st'') ∧
    ∀ (W : Type) (hosts : HostInterface W) (root : Value) (op : CompareOp) (left right : Expr)
        (st st'' : W) (e : EvalError),
      (Expr.compare op left right).eval hosts root st = .error e st'' →
        left.eval hosts root st = .error e st'' ∨ ∃ v st',
          left.eval hosts root st = .ok v st' ∧ right.eval hosts root st' = .error e st'' := by
  refine ⟨holds_greater.symm, holds_greaterEqual.symm, not_holds_less_self, holds_less_trans,
    holds_lessEqual_trans, not_holds_less_and_equal, not_holds_less_and_greater,
    not_holds_equal_and_greater, holds_of_comparable, holds_lessEqual_iff, rfl, ?_, ?_⟩
  · exact fun _ _ _ _ _ _ _ _ _ => Expr.eval_compare
  · exact fun _ _ _ _ _ _ _ _ _ => Expr.eval_compare_eq_error

end HostExpr
