import HostExpr.Json.Reader
import HostExpr.Proofs.NumberText

/-!
# Texts and numbers in JSON read back

What the reader of JSON documents makes of a text and of a number as they are written, before whatever
may follow a value.

* `Json.EndsValue`: what may follow a value in a document;
* `Json.Recovers`: a reader takes a written item from the front of a document;
* `Json.readText_quote`: every text reads back from its quoted form;
* `Json.readNumber_append`, `Json.recovers_number`: the text of a number is read in the same way wherever
  it stands, so that it reads back in a document if it does alone (`Json.readFloat?`).
-/

namespace HostExpr.Json

open Decimal

/-! ### Readers -/

/-- What may follow a value in a document: a blank, a comma, a closing bracket or the end. -/
def EndsValue (rest : List Char) : Prop :=
  ∀ c ∈ rest.head?, isBlank c ∨ c = ',' ∨ c = ']' ∨ c = '}'

theorem endsValue_nil : EndsValue [] := by
  simp [EndsValue]

theorem endsValue_cons {c : Char} (hc : isBlank c ∨ c = ',' ∨ c = ']' ∨ c = '}') (rest : List Char) :
    EndsValue (c :: rest) := by
  rintro _ ⟨⟩
  exact hc

/-- A reader takes a text from the front of a document, as something that stands for `y`. -/
def Recovers {α β : Type} (reader : Reader α) (value : α → β) (text : List Char) (y : β) : Prop :=
  ∀ rest, EndsValue rest → ∃ x, reader (text ++ rest) = some (x, rest) ∧ value x = y

/-! ### Texts -/

theorem hexCode?_digits {n : Nat} (h : n < 160) :
    hexCode? (Hex.digit (n / 4096)) (Hex.digit (n / 256)) (Hex.digit (n / 16)) (Hex.digit n) =
      some n := by
  have hall : ∀ i ∈ List.range 160, hexCode? (Hex.digit (i / 4096)) (Hex.digit (i / 256))
      (Hex.digit (i / 16)) (Hex.digit i) = some i := by decide +kernel
  exact hall n (List.mem_range.2 h)

/-- A character reads back from its escape. -/
theorem readText_escapeControls (c : Char) (cs : List Char) :
    readText (escapeControls c ++ cs) =
      (readText cs).map fun (content, rest) => (c :: content, rest) := by
  have hshort : ∀ d, d ≠ 'u' → shortEscape? d = some c → readText ('\\' :: d :: cs) =
      (readText cs).map fun (content, rest) => (c :: content, rest) := by
    intro d hd hescape
    rw [readText]
    · simp only [hescape]
    · exact fun _ _ _ _ _ h => absurd h hd
  unfold escapeControls
  split
  · next h => exact hshort '"' (by decide) (by rw [h]; rfl)
  split
  · next h => exact hshort '\\' (by decide) (by rw [h]; rfl)
  split
  · next h => exact hshort 'n' (by decide) (by rw [h]; rfl)
  split
  · next h => exact hshort 'r' (by decide) (by rw [h]; rfl)
  split
  · next h => exact hshort 't' (by decide) (by rw [h]; rfl)
  split
  · next hcontrol =>
    have hlt : c.toNat < 160 := by
      simp [isControl] at hcontrol
      omega
    simp only [escapeCode, List.cons_append, List.nil_append]
    rw [readText]
    simp only [hexCode?_digits hlt]
    rw [if_neg (by omega), if_neg (by omega), Char.ofNat_toNat]
  · next hquote hbackslash _ _ _ hcontrol =>
    have hge : ¬ c.toNat < 0x20 := by
      simp [isControl] at hcontrol
      omega
    rw [List.singleton_append, readText, if_neg hge]
    · exact hquote
    · exact fun _ _ _ _ _ h => absurd h hbackslash
    · exact fun _ _ h => absurd h hbackslash

/-- A text reads back from its quoted form. -/
theorem readText_quote (cs rest : List Char) :
    readText (cs.flatMap escapeControls ++ '"' :: rest) = some (cs, rest) := by
  induction cs with
  | nil => exact readText.eq_2 rest
  | cons c cs ih =>
    rw [List.flatMap_cons, List.append_assoc, readText_escapeControls, ih]
    rfl

theorem quoteWith_append (s : String) (rest : List Char) :
    quoteWith escapeControls s ++ rest = '"' :: (s.toList.flatMap escapeControls ++ '"' :: rest) := by
  simp [quoteWith]

/-! ### Numbers -/

theorem startsWithDigit_of_endsValue {rest : List Char} (h : EndsValue rest) :
    Lexer.startsWithDigit rest = false ∧ atTail rest = false := by
  cases rest with
  | nil => exact ⟨rfl, rfl⟩
  | cons c rest =>
    have hc := h c rfl
    simp only [isBlank, Bool.or_eq_true, decide_eq_true_eq, or_assoc] at hc
    rcases hc with rfl | rfl | rfl | rfl | rfl | rfl | rfl <;> exact ⟨rfl, rfl⟩

section

variable {cs rest : List Char} (hrest : Lexer.startsWithDigit rest = false)

include hrest

theorem atDigit_append : atDigit (cs ++ rest) = atDigit cs := by
  cases cs with
  | nil =>
    cases rest with
    | nil => rfl
    | cons c rest => exact hrest
  | cons c cs => rfl

/-- Digits are collected up to where no digit follows. -/
theorem gather_append (significand : Nat) :
    gather significand (cs ++ rest) =
      ((gather significand cs).1, (gather significand cs).2.1, (gather significand cs).2.2 ++ rest) := by
  induction cs generalizing significand with
  | nil =>
    cases rest with
    | nil => rfl
    | cons c rest =>
      have hc : ¬ isDigit c := ne_true_of_eq_false hrest
      rw [List.nil_append, gather]
      simp [hc, gather]
  | cons c cs ih =>
    rw [List.cons_append, gather, gather]
    simp only [ih]
    split <;> rfl

end

theorem isRun_gather {cs : List Char} (h : IsRun cs) (significand : Nat) :
    IsRun (gather significand cs).2.2 := by
  induction cs generalizing significand with
  | nil => exact h
  | cons c cs ih =>
    rw [gather]
    simp only
    split
    · exact ih (List.forall_mem_cons.1 h).2 _
    · exact h

theorem finish_of_endsValue {rest : List Char} (hrest : EndsValue rest) (significand : Nat)
    (exponent : Int) :
    finish significand exponent rest = (scale significand exponent).map fun x => (x, rest) := by
  cases rest with
  | nil => cases h : scale significand exponent <;> simp [finish, h]
  | cons c rest =>
    have htail := (startsWithDigit_of_endsValue hrest).2
    have hc : ¬ (c = 'e' ∨ c = 'E') := by
      simp only [atTail, Bool.or_eq_false_iff, decide_eq_false_iff_not] at htail
      rintro (rfl | rfl)
      · exact htail.1.2 rfl
      · exact htail.2 rfl
    rw [finish, if_neg hc]
    cases scale significand exponent <;> rfl

section

variable {whole fraction rest : List Char}

theorem readFraction_append (hfraction : IsRun fraction) (hrest : EndsValue rest) (significand : Nat)
    (exponent : Int) :
    readFraction significand exponent (fraction ++ rest) =
      (readFraction significand exponent fraction).map fun (x, after) => (x, after ++ rest) := by
  obtain ⟨hdigit, -⟩ := startsWithDigit_of_endsValue hrest
  have hleft := isRun_gather hfraction significand
  have hdrop := (hleft.split rest hdigit).2
  have hdrop' := (hleft.split [] rfl).2
  rw [List.append_nil] at hdrop'
  unfold readFraction
  rw [gather_append hdigit]
  simp only [atDigit_append hdigit, hdrop, hdrop', finish_of_endsValue hrest,
    finish_of_endsValue endsValue_nil]
  split
  · rfl
  · rw [Option.map_map]
    rfl

theorem readTail_append (hfraction : IsRun fraction) (hrest : EndsValue rest) (significand : Nat)
    (exponent : Int) :
    readTail significand exponent ((if fraction = [] then [] else '.' :: fraction) ++ rest) =
      (readTail significand exponent (if fraction = [] then [] else '.' :: fraction)).map
        fun (x, after) => (x, after ++ rest) := by
  split
  · have hplain : ∀ rest, EndsValue rest →
        readTail significand exponent rest = (scale significand exponent).map fun x => (x, rest) := by
      intro rest hrest
      rw [← finish_of_endsValue hrest]
      unfold readTail
      split
      · exact absurd (startsWithDigit_of_endsValue hrest).2 (by simp [atTail])
      · rfl
    rw [List.nil_append, hplain rest hrest, hplain [] endsValue_nil, Option.map_map]
    rfl
  · exact readFraction_append hfraction hrest significand exponent

/-- Digits around a point are read in the same way whatever follows them. -/
theorem readMagnitude_append (hne : whole ≠ []) (hwhole : IsRun whole) (hfraction : IsRun fraction)
    (hrest : EndsValue rest) (negative : Bool) :
    readMagnitude negative (pointed whole fraction ++ rest) =
      (readMagnitude negative (pointed whole fraction)).map fun (doc, after) => (doc, after ++ rest) := by
  obtain ⟨hdigit, htail⟩ := startsWithDigit_of_endsValue hrest
  obtain ⟨c, cs, rfl⟩ := List.exists_cons_of_ne_nil hne
  unfold pointed
  generalize ht : (if fraction = [] then [] else '.' :: fraction) = t
  have htdigit : Lexer.startsWithDigit t = false ∧ Lexer.startsWithDigit (t ++ rest) = false ∧
      atTail (t ++ rest) = atTail t := by
    split at ht
    · subst ht
      exact ⟨rfl, hdigit, htail⟩
    · subst ht
      exact ⟨rfl, rfl, rfl⟩
  obtain ⟨ht₁, ht₂, ht₃⟩ := htdigit
  have hread : ∀ s e, readTail s e (t ++ rest) = (readTail s e t).map fun (x, after) =>
      (x, after ++ rest) := by
    subst ht
    exact readTail_append hfraction hrest
  have hleft := isRun_gather hwhole 0
  obtain ⟨htake, hdrop⟩ := hleft.split t ht₁
  obtain ⟨htake', hdrop'⟩ := hleft.split (t ++ rest) ht₂
  rw [List.append_assoc]
  unfold readMagnitude
  simp only [List.cons_append]
  rw [← List.cons_append, ← List.cons_append, gather_append ht₁, gather_append ht₂, ← List.append_assoc,
    atDigit_append hdigit]
  simp only [htake, hdrop, htake', hdrop', ht₃, hread]
  split
  · rfl
  split
  · rfl
  · cases readTail _ _ t <;> rfl

end

/-- The text of a number is read in the same way whatever follows it. -/
theorem readNumber_append (x : Float) {rest : List Char} (hrest : EndsValue rest) :
    readNumber (Number.plain x ++ rest) =
      (readNumber (Number.plain x)).map fun (doc, after) => (doc, after ++ rest) := by
  obtain ⟨whole, fraction, hne, hwhole, hfraction, hplain⟩ := Number.exists_plain x
  rw [hplain]
  split
  · exact readMagnitude_append hne hwhole hfraction hrest true
  · obtain ⟨c, cs, hcs, hc⟩ := Number.exists_cons_pointed hne hwhole fraction
    have hunsigned : ∀ cs, readNumber (c :: cs) = readMagnitude false (c :: cs) := by
      intro cs
      unfold readNumber
      split
      · next heq =>
        obtain ⟨rfl, -⟩ := List.cons.inj heq
        exact absurd hc (by decide)
      · rfl
    have hread := readMagnitude_append hne hwhole hfraction hrest false
    rw [hcs] at hread ⊢
    rw [List.cons_append, hunsigned, hunsigned]
    exact hread

/-- The number that a whole text spells in a document. -/
def readFloat? (cs : List Char) : Option Float :=
  match readNumber cs with
  | some (integer n, []) => some (Number.ofInt n)
  | some (number x, []) => some x
  | _ => none

/-- A number whose text reads back alone reads back in a document. -/
theorem recovers_number {x : Float} (h : readFloat? (Number.plain x) = some x) :
    Recovers readNumber toValue (Number.plain x) (.number x) := by
  intro rest hrest
  rw [readNumber_append x hrest]
  unfold readFloat? at h
  split at h
  · next n hn =>
    obtain rfl := Option.some.inj h
    exact ⟨integer n, by rw [hn]; rfl, rfl⟩
  · next y hy =>
    obtain rfl := Option.some.inj h
    exact ⟨number y, by rw [hy]; rfl, rfl⟩
  · exact absurd h (by simp)

end HostExpr.Json
