import HostExpr.Lexer

/-!
# The shape of the text of a number

The positional text of a number is a sign, digits and perhaps a point with further digits, which is
also what a numeral in an expression may be.

* `Decimal.pointed`: digits around a point;
* `Decimal.exists_pointed`: the positional text of a decimal is of this shape;
* `Decimal.read?_pointed`, `Lexer.numeral_pointed`: such a text reads as the same decimal, alone and
  at the front of an expression.
-/

namespace HostExpr

namespace Decimal

/-! ### Runs of digits -/

/-- A run of digits. -/
def IsRun (cs : List Char) : Prop :=
  ∀ c ∈ cs, isDigit c

theorem isRun_digitsOf (n : Nat) : IsRun (digitsOf n) := by
  intro c hc
  exact Nat.isDigit_of_mem_toDigits (by decide) (by decide) hc

theorem isRun_zeros (n : Nat) : IsRun (List.replicate n '0') := by
  intro c hc
  rw [List.eq_of_mem_replicate hc]
  rfl

theorem IsRun.append {cs ds : List Char} (hcs : IsRun cs) (hds : IsRun ds) : IsRun (cs ++ ds) :=
  List.forall_mem_append.2 ⟨hcs, hds⟩

theorem digitsOf_ne_nil (n : Nat) : digitsOf n ≠ [] :=
  Nat.toDigits_ne_nil

/-- A run of digits ends where no digit follows. -/
theorem IsRun.split {cs : List Char} (h : IsRun cs) (rest : List Char)
    (hrest : Lexer.startsWithDigit rest = false) :
    (cs ++ rest).takeWhile isDigit = cs ∧ (cs ++ rest).dropWhile isDigit = rest := by
  rw [List.takeWhile_append_of_pos h, List.dropWhile_append_of_pos h]
  cases rest with
  | nil => exact ⟨List.append_nil cs, rfl⟩
  | cons c rest =>
    have hc : ¬ isDigit c := ne_true_of_eq_false hrest
    rw [List.takeWhile_cons_of_neg hc, List.dropWhile_cons_of_neg hc]
    exact ⟨List.append_nil cs, rfl⟩

/-! ### Digits around a point -/

/-- Digits, and further digits after a point if there are any. -/
def pointed (whole fraction : List Char) : List Char :=
  whole ++ if fraction = [] then [] else '.' :: fraction

/-- The positional text of a decimal is made of digits around a point, with digits on both sides if
there is a point. -/
theorem exists_pointed (d : Decimal) :
    ∃ whole fraction, whole ≠ [] ∧ IsRun whole ∧ IsRun fraction ∧
      d.positional = pointed whole fraction := by
  have hdigits := isRun_digitsOf d.digits
  have hne := digitsOf_ne_nil d.digits
  unfold positional
  simp only
  split
  · refine ⟨_, [], ?_, hdigits.append (isRun_zeros _), by simp [IsRun], (List.append_nil _).symm⟩
    simp [hne]
  · next hplaces =>
    split
    · next hlt =>
      refine ⟨(digitsOf d.digits).take ((digitsOf d.digits).length - (-d.exponent).toNat),
        (digitsOf d.digits).drop ((digitsOf d.digits).length - (-d.exponent).toNat), ?_, ?_, ?_, ?_⟩
      · rw [ne_eq, List.take_eq_nil_iff]
        intro h
        rcases h with h | h
        · omega
        · exact hne h
      · exact fun c hc => hdigits c (List.mem_of_mem_take hc)
      · exact fun c hc => hdigits c (List.mem_of_mem_drop hc)
      · have hdrop : (digitsOf d.digits).drop
            ((digitsOf d.digits).length - (-d.exponent).toNat) ≠ [] := by
          rw [ne_eq, List.drop_eq_nil_iff]
          omega
        rw [pointed, if_neg hdrop]
    · refine ⟨['0'], List.replicate ((-d.exponent).toNat - (digitsOf d.digits).length) '0' ++
        digitsOf d.digits, by simp, isRun_zeros 1, (isRun_zeros _).append hdigits, ?_⟩
      rw [pointed, if_neg (by simp [hne])]
      rfl

section

variable {whole fraction : List Char}

/-- Digits around a point read as the decimal that they spell. -/
theorem read?_pointed (hne : whole ≠ []) (hwhole : IsRun whole) (hfraction : IsRun fraction) :
    read? (pointed whole fraction) = some (ofDigits whole fraction 0) := by
  unfold pointed
  split
  · next hnil =>
    subst hnil
    obtain ⟨htake, hdrop⟩ := hwhole.split [] rfl
    unfold read?
    rw [htake, hdrop]
    simp [hne, readExponent?]
  · next hsome =>
    obtain ⟨htake, hdrop⟩ := hwhole.split ('.' :: fraction) rfl
    have hrest := hfraction.split [] rfl
    rw [List.append_nil] at hrest
    unfold read?
    rw [htake, hdrop]
    simp [hne, hrest.1, hrest.2, readExponent?]

/-- What may follow a numeral without being taken for a part of it. -/
def EndsNumeral (rest : List Char) : Prop :=
  Lexer.startsWithDigit rest = false ∧ rest.head? ≠ some '.'

theorem fraction_of_ne {rest : List Char} (h : rest.head? ≠ some '.') :
    Lexer.fraction rest = ([], rest) := by
  unfold Lexer.fraction
  split
  · exact absurd rfl h
  · rfl

theorem fraction_point (hne : fraction ≠ []) (hfraction : IsRun fraction) {rest : List Char}
    (hrest : Lexer.startsWithDigit rest = false) :
    Lexer.fraction ('.' :: (fraction ++ rest)) = (fraction, rest) := by
  cases fraction with
  | nil => exact absurd rfl hne
  | cons c cs =>
    obtain ⟨hc, hcs⟩ := List.forall_mem_cons.1 hfraction
    obtain ⟨htake, hdrop⟩ := IsRun.split hcs rest hrest
    show (if isDigit c then (c :: (cs ++ rest).takeWhile isDigit, (cs ++ rest).dropWhile isDigit)
      else _) = _
    rw [if_pos hc, htake, hdrop]

/-- Digits around a point at the front of an expression are the number that they spell. -/
theorem numeral_pointed (hwhole : IsRun whole) (hfraction : IsRun fraction) {rest : List Char}
    (hrest : EndsNumeral rest) :
    Lexer.numeral (pointed whole fraction ++ rest) =
      ((ofDigits whole fraction 0).toFloat, rest) := by
  unfold pointed Lexer.numeral
  split
  · next hnil =>
    subst hnil
    obtain ⟨htake, hdrop⟩ := hwhole.split rest hrest.1
    rw [List.append_nil, htake, hdrop, fraction_of_ne hrest.2]
  · next hsome =>
    obtain ⟨htake, hdrop⟩ := hwhole.split ('.' :: (fraction ++ rest)) rfl
    rw [List.append_assoc, List.cons_append, htake, hdrop, fraction_point hsome hfraction hrest.1]

end

end Decimal

/-! ### Numbers -/

namespace Number

open Decimal

/-- The text of a number: a minus sign if its sign bit is set, then digits around a point. -/
theorem exists_plain (x : Float) :
    ∃ whole fraction, whole ≠ [] ∧ IsRun whole ∧ IsRun fraction ∧
      plain x = if (parts x).negative then '-' :: pointed whole fraction
        else pointed whole fraction := by
  have hzero : ∃ whole fraction, whole ≠ [] ∧ IsRun whole ∧ IsRun fraction ∧
      ['0'] = pointed whole fraction := ⟨['0'], [], by simp, isRun_zeros 1, by simp [IsRun], rfl⟩
  have hdigits : ∃ whole fraction, whole ≠ [] ∧ IsRun whole ∧ IsRun fraction ∧
      (if x == 0.0 then ['0'] else (shortestOf .up x.abs).positional) = pointed whole fraction := by
    split
    · exact hzero
    · exact exists_pointed _
  obtain ⟨whole, fraction, hne, hwhole, hfraction, heq⟩ := hdigits
  refine ⟨whole, fraction, hne, hwhole, hfraction, ?_⟩
  unfold plain
  rw [heq]

theorem exists_cons_pointed {whole : List Char} (hne : whole ≠ []) (hwhole : IsRun whole)
    (fraction : List Char) : ∃ c cs, pointed whole fraction = c :: cs ∧ isDigit c := by
  cases whole with
  | nil => exact absurd rfl hne
  | cons c cs => exact ⟨c, _, rfl, hwhole c (by simp)⟩

/-- A text that starts with a digit has no sign. -/
theorem read?_of_isDigit {c : Char} (h : isDigit c) (cs : List Char) :
    read? (c :: cs) = (Decimal.read? (c :: cs)).map Decimal.toFloat := by
  unfold read?
  split
  · next heq =>
    obtain ⟨rfl, -⟩ := List.cons.inj heq
    exact absurd h (by decide)
  · next heq =>
    obtain ⟨rfl, -⟩ := List.cons.inj heq
    exact absurd h (by decide)
  · rfl

/-- The text of a number that reads back is a numeral of this number, or a minus sign and a numeral
of the number of the other sign. -/
theorem plain_cases {x : Float} (h : read? (plain x) = some x) :
    ∃ c cs y, isDigit c ∧
      (∀ rest, EndsNumeral rest → Lexer.numeral (c :: cs ++ rest) = (y, rest)) ∧
      ((plain x = c :: cs ∧ x = y) ∨ (plain x = '-' :: c :: cs ∧ x = -y)) := by
  obtain ⟨whole, fraction, hne, hwhole, hfraction, hplain⟩ := exists_plain x
  obtain ⟨c, cs, hcs, hc⟩ := exists_cons_pointed hne hwhole fraction
  have hread : Decimal.read? (c :: cs) = some (ofDigits whole fraction 0) := by
    rw [← hcs]
    exact read?_pointed hne hwhole hfraction
  refine ⟨c, cs, (ofDigits whole fraction 0).toFloat, hc, ?_, ?_⟩
  · intro rest hrest
    rw [← hcs]
    exact numeral_pointed hwhole hfraction hrest
  · rw [hcs] at hplain
    split at hplain
    · right
      refine ⟨hplain, ?_⟩
      rw [hplain] at h
      have hneg : read? ('-' :: c :: cs) = (Decimal.read? (c :: cs)).map fun d => -d.toFloat := rfl
      rw [hneg, hread] at h
      exact (Option.some.inj h).symm
    · left
      refine ⟨hplain, ?_⟩
      rw [hplain, read?_of_isDigit hc, hread] at h
      exact (Option.some.inj h).symm

end Number

end HostExpr
