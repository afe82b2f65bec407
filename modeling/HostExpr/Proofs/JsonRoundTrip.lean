import HostExpr.Proofs.JsonScalars
import HostExpr.Proofs.Subvalues

/-!
# The JSON text of a value reads back

The JSON text of a value, on one line or with an item a line, is read as a document of the same value,
with null in place of every number that is not finite and the text of its type name in place of every
host object.

* `Value.levels`, `Value.jsonForm`: how deep its lists and maps are nested, and what JSON keeps of it;
* `Json.readBracket_items`: items between brackets, with commas between them and blanks around them;
* `Json.recovers_print`: a value at any level of a document;
* `Json.readWith?_toJson`: the whole text, whatever the way to read numbers, as long as it recovers the
  numbers of the value from their texts;
* `Json.read?_toJson`: the same for the numbers that the reader of documents recovers.
-/

namespace HostExpr

/-! ### What JSON keeps -/

namespace Value

/-- How deep lists and maps are nested in a value. -/
def levels : Value → Nat
  | list items => highest (items.map levels) + 1
  | map entries => highest (entries.map fun t => t.2.levels) + 1
  | _ => 0
  termination_by v => sizeOf v
  decreasing_by
    all_goals simp_wf
    all_goals first
      | have := List.sizeOf_lt_of_mem ‹_ ∈ _›; omega
      | have := sizeOf_snd_lt_of_mem ‹_ ∈ _›; omega

/-- What JSON keeps of a value: null for a number that is not finite, and the text of its type name for
a host object. -/
def jsonForm : Value → Value
  | null => null
  | boolean b => boolean b
  | number x => if x.isFinite then number x else null
  | text s => text s
  | list items => list (items.map jsonForm)
  | map entries => map (entries.map fun t => (t.1, t.2.jsonForm))
  | host ref => text (hostText ref)
  termination_by v => sizeOf v
  decreasing_by
    all_goals simp_wf
    all_goals first
      | have := List.sizeOf_lt_of_mem ‹_ ∈ _›; omega
      | have := sizeOf_snd_lt_of_mem ‹_ ∈ _›; omega

/-! ### Layouts -/

theorem layoutItems_eq (items : List Value) : layoutItems items = items.map layout := by
  induction items with
  | nil => rfl
  | cons v vs ih => rw [layoutItems, ih, List.map_cons]

theorem layoutEntries_eq (entries : List (String × Value)) :
    layoutEntries entries =
      entries.map fun t => (Json.quoteWith Json.escapeControls t.1, t.2.layout) := by
  induction entries with
  | nil => rfl
  | cons t ts ih =>
    obtain ⟨key, v⟩ := t
    rw [layoutEntries, ih, List.map_cons]

end Value

namespace Json

theorem toValues_eq (items : List Json) : toValues items = items.map toValue := by
  induction items with
  | nil => rfl
  | cons d ds ih => rw [toValues, ih, List.map_cons]

theorem toEntries_eq (entries : List (String × Json)) :
    toEntries entries = entries.map fun t => (t.1, t.2.toValue) := by
  induction entries with
  | nil => rfl
  | cons t ts ih =>
    obtain ⟨key, d⟩ := t
    rw [toEntries, ih, List.map_cons]

namespace Layout

variable {style : Style} {level : Nat}

theorem printItems_eq (items : List Layout) :
    printItems style level items =
      items.flatMap fun item => ',' :: (lineBreak style level ++ print style level item) := by
  induction items with
  | nil => rfl
  | cons item items ih => rw [printItems, ih, List.flatMap_cons, List.cons_append]

/-- The text of an entry of a map. -/
def printEntry (style : Style) (level : Nat) (entry : List Char × Layout) : List Char :=
  entry.1 ++ colon style ++ print style level entry.2

theorem printEntries_eq (entries : List (List Char × Layout)) :
    printEntries style level entries =
      entries.flatMap fun entry => ',' :: (lineBreak style level ++ printEntry style level entry) := by
  induction entries with
  | nil => rfl
  | cons entry entries ih =>
    obtain ⟨key, value⟩ := entry
    rw [printEntries, ih, List.flatMap_cons, List.cons_append]
    simp only [printEntry, List.append_assoc]

theorem isBlank_of_mem_lineBreak : ∀ c ∈ lineBreak style level, isBlank c := by
  intro c h
  cases style with
  | compact => exact absurd h List.not_mem_nil
  | indented =>
    rcases List.mem_cons.1 h with rfl | h
    · rfl
    · obtain rfl := List.eq_of_mem_replicate h
      rfl

end Layout

/-! ### Items between brackets -/

/-- A text starts with a character that belongs to a value. -/
def StartsValue (text : List Char) : Prop :=
  ∃ c cs, text = c :: cs ∧ isBlank c = false ∧ c ≠ ',' ∧ c ≠ ']' ∧ c ≠ '}'

theorem skipBlanks_append {space text : List Char} (hspace : ∀ c ∈ space, isBlank c)
    (htext : ∀ c ∈ text.head?, isBlank c = false) : skipBlanks (space ++ text) = text := by
  unfold skipBlanks
  rw [List.dropWhile_append_of_pos hspace]
  cases text with
  | nil => rfl
  | cons c cs => rw [List.dropWhile_cons_of_neg (by simp [htext c rfl])]

theorem StartsValue.head {text : List Char} (h : StartsValue text) (rest : List Char) :
    ∀ c ∈ (text ++ rest).head?, isBlank c = false := by
  obtain ⟨c, cs, rfl, hc, -⟩ := h
  rintro _ ⟨⟩
  exact hc

section

variable {α β γ : Type} {reader : Reader α} {value : α → γ} {text : β → List Char} {expect : β → γ}
  {closing : Char} {space after : List Char}

/-- The text of items: blanks before each one, a comma between two, and blanks and a bracket after the
last. -/
def itemsText (text : β → List Char) (space after : List Char) (closing : Char) (b : β) (bs : List β) :
    List Char :=
  space ++ text b ++ bs.flatMap (fun b => ',' :: (space ++ text b)) ++ (after ++ [closing])

theorem readItems_items (hclosing : closing = ']' ∨ closing = '}') (hspace : ∀ c ∈ space, isBlank c)
    (hafter : ∀ c ∈ after, isBlank c) {b : β} {bs : List β}
    (hstarts : ∀ x ∈ b :: bs, StartsValue (text x))
    (hitems : ∀ x ∈ b :: bs, Recovers reader value (text x) (expect x)) {n : Nat} (hn : bs.length < n)
    (rest : List Char) :
    ∃ xs, readItems reader closing n (itemsText text space after closing b bs ++ rest) =
      some (xs, rest) ∧ xs.map value = (b :: bs).map expect := by
  have hclose : isBlank closing = false ∧ closing ≠ ',' := by
    rcases hclosing with rfl | rfl <;> exact ⟨rfl, by decide⟩
  induction bs generalizing b n with
  | nil =>
    obtain ⟨n, rfl⟩ := Nat.exists_eq_add_one_of_ne_zero (Nat.ne_of_gt hn)
    have hends : EndsValue (after ++ closing :: rest) := by
      cases after with
      | nil => exact endsValue_cons (hclosing.elim (fun h => by simp [h]) (fun h => by simp [h])) rest
      | cons c cs => exact endsValue_cons (.inl (hafter c List.mem_cons_self)) _
    obtain ⟨x, hx, hvalue⟩ := hitems b List.mem_cons_self _ hends
    have htext : itemsText text space after closing b [] ++ rest =
        space ++ (text b ++ (after ++ closing :: rest)) := by simp [itemsText]
    refine ⟨[x], ?_, by simp [hvalue]⟩
    rw [htext, readItems, skipBlanks_append hspace ((hstarts b List.mem_cons_self).head _), hx]
    simp only [Option.bind_eq_bind, Option.bind_some]
    rw [skipBlanks_append hafter (by rintro _ ⟨⟩; exact hclose.1)]
    simp [hclose.2]
  | cons b' bs ih =>
    obtain ⟨n, rfl⟩ := Nat.exists_eq_add_one_of_ne_zero (Nat.ne_of_gt (Nat.zero_lt_of_lt hn))
    obtain ⟨x, hx, hvalue⟩ := hitems b List.mem_cons_self
      (',' :: (itemsText text space after closing b' bs ++ rest)) (endsValue_cons (by simp) _)
    obtain ⟨xs, hxs, hvalues⟩ := ih (fun x hx => hstarts x (List.mem_cons_of_mem _ hx))
      (fun x hx => hitems x (List.mem_cons_of_mem _ hx)) (Nat.lt_of_succ_lt_succ hn)
    have htext : itemsText text space after closing b (b' :: bs) ++ rest =
        space ++ (text b ++ ',' :: (itemsText text space after closing b' bs ++ rest)) := by
      simp [itemsText]
    refine ⟨x :: xs, ?_, by rw [List.map_cons, List.map_cons, hvalue, hvalues]⟩
    rw [htext, readItems, skipBlanks_append hspace ((hstarts b List.mem_cons_self).head _), hx]
    simp only [Option.bind_eq_bind, Option.bind_some]
    have hcomma : ∀ cs : List Char, skipBlanks (',' :: cs) = ',' :: cs := fun _ => rfl
    rw [hcomma]
    simp [hxs]

/-- Items after an opening bracket are read if each of them is. -/
theorem readBracket_items (hclosing : closing = ']' ∨ closing = '}')
    (hspace : ∀ c ∈ space, isBlank c) (hafter : ∀ c ∈ after, isBlank c) {b : β} {bs : List β}
    (hstarts : ∀ x ∈ b :: bs, StartsValue (text x))
    (hitems : ∀ x ∈ b :: bs, Recovers reader value (text x) (expect x)) (rest : List Char) :
    ∃ xs, readBracket reader closing (itemsText text space after closing b bs ++ rest) =
      some (xs, rest) ∧ xs.map value = (b :: bs).map expect := by
  obtain ⟨c, cs, hcs, hblank, -, hlist, hmap⟩ := hstarts b List.mem_cons_self
  have hskip : skipBlanks (itemsText text space after closing b bs ++ rest) =
      c :: (cs ++ bs.flatMap (fun b => ',' :: (space ++ text b)) ++ (after ++ [closing]) ++ rest) := by
    unfold itemsText
    rw [List.append_assoc, List.append_assoc, List.append_assoc,
      skipBlanks_append hspace ((hstarts b List.mem_cons_self).head _), hcs]
    simp
  have hne : c ≠ closing := by
    rcases hclosing with rfl | rfl
    · exact hlist
    · exact hmap
  have hcommas : ∀ bs : List β, bs.length ≤
      (bs.flatMap fun b => ',' :: (space ++ text b)).length := by
    intro bs
    induction bs with
    | nil => exact Nat.zero_le _
    | cons b bs ih =>
      rw [List.flatMap_cons, List.length_append, List.length_cons, List.length_cons]
      omega
  unfold readBracket
  rw [hskip]
  simp only [hne, if_false]
  refine readItems_items hclosing hspace hafter hstarts hitems ?_ rest
  have hlength := hcommas bs
  simp only [List.length_append]
  omega

end

/-! ### Documents -/

section

variable {number : Reader Json}

theorem readDocumentWith_scalar {c : Char} (hlist : c ≠ '[') (hmap : c ≠ '{') (levels : Nat)
    (cs : List Char) : readDocumentWith number levels (c :: cs) = readScalar number (c :: cs) := by
  cases levels with
  | zero => rw [readDocumentWith]; all_goals simp
  | succ levels =>
    rw [readDocumentWith]
    · exact fun _ _ _ h => absurd (List.cons.inj h).1 hlist
    · exact fun _ _ _ h => absurd (List.cons.inj h).1 hmap

/-- A text is read from its quoted form. -/
theorem recovers_text (levels : Nat) (s : String) :
    Recovers (readDocumentWith number levels) toValue (quoteWith escapeControls s) (.text s) := by
  intro rest _
  refine ⟨.text s, ?_, rfl⟩
  rw [quoteWith_append, readDocumentWith_scalar (by decide) (by decide)]
  show (readText _).map _ = _
  rw [readText_quote, Option.map_some]
  simp only [String.ofList_toList]

/-- The text of a number starts with a digit or a minus sign. -/
theorem exists_plain_cons (x : Float) :
    ∃ c cs, Number.plain x = c :: cs ∧ ∀ d, Decimal.isDigit d = false → d ≠ '-' → c ≠ d := by
  obtain ⟨whole, fraction, hne, hwhole, -, hplain⟩ := Number.exists_plain x
  obtain ⟨c, cs, hcs, hc⟩ := Number.exists_cons_pointed hne hwhole fraction
  rw [hplain, hcs]
  split
  · exact ⟨'-', c :: cs, rfl, fun d _ hd => Ne.symm hd⟩
  · refine ⟨c, cs, rfl, ?_⟩
    rintro d hd - rfl
    exact absurd hc (by simp [hd])

theorem recovers_plain {x : Float} (hx : Recovers number toValue (Number.plain x) (.number x))
    (levels : Nat) :
    Recovers (readDocumentWith number levels) toValue (Number.plain x) (.number x) := by
  intro rest hrest
  obtain ⟨doc, hdoc, hvalue⟩ := hx rest hrest
  refine ⟨doc, ?_, hvalue⟩
  obtain ⟨c, cs, hcs, hne⟩ := exists_plain_cons x
  rw [hcs, List.cons_append] at hdoc ⊢
  rw [readDocumentWith_scalar (hne '[' rfl (by decide)) (hne '{' rfl (by decide)), readScalar]
  · simp [afterWord, (hne 'n' rfl (by decide)).symm, (hne 't' rfl (by decide)).symm,
      (hne 'f' rfl (by decide)).symm, hdoc]
  · exact fun _ h => absurd (List.cons.inj h).1 (hne '"' rfl (by decide))

theorem recovers_null (levels : Nat) :
    Recovers (readDocumentWith number levels) toValue "null".toList .null :=
  fun _ _ => ⟨.null, readDocumentWith_scalar (by decide) (by decide) _ _, rfl⟩

theorem recovers_boolean (levels : Nat) (b : Bool) :
    Recovers (readDocumentWith number levels) toValue
      (if b then "true".toList else "false".toList) (.boolean b) := by
  intro rest _
  refine ⟨.boolean b, ?_, rfl⟩
  cases b with
  | true => exact readDocumentWith_scalar (by decide) (by decide) _ _
  | false => exact readDocumentWith_scalar (by decide) (by decide) _ _

/-- The text of a key and its value in a map. -/
def entryText (style : Style) (level : Nat) (t : String × Value) : List Char :=
  Layout.printEntry style level (quoteWith escapeControls t.1, t.2.layout)

theorem startsValue_entryText (style : Style) (level : Nat) (t : String × Value) :
    StartsValue (entryText style level t) :=
  ⟨'"', _, rfl, by decide, by decide, by decide, by decide⟩

/-- An entry of a map is read if its value is. -/
theorem recovers_entry {reader : Reader Json} {style : Style} {level : Nat} (t : String × Value)
    {w : Value} (hstarts : StartsValue (t.2.layout.print style level))
    (hv : Recovers reader toValue (t.2.layout.print style level) w) :
    Recovers (readEntry reader) (fun t => (t.1, t.2.toValue)) (entryText style level t) (t.1, w) := by
  intro rest hrest
  obtain ⟨doc, hdoc, hvalue⟩ := hv rest hrest
  have hcolon : ∀ cs : List Char, (∀ c ∈ cs.head?, isBlank c = false) →
      ∃ ds, skipBlanks (Layout.colon style ++ cs) = ':' :: ds ∧ skipBlanks ds = cs := by
    intro cs hcs
    have hcs : skipBlanks cs = cs :=
      skipBlanks_append (fun c hc => absurd hc List.not_mem_nil) hcs
    cases style with
    | compact => exact ⟨cs, rfl, hcs⟩
    | indented => exact ⟨' ' :: cs, rfl, hcs⟩
  obtain ⟨ds, hds, hskip⟩ := hcolon _ (hstarts.head rest)
  refine ⟨(t.1, doc), ?_, congrArg (t.1, ·) hvalue⟩
  unfold entryText Layout.printEntry
  rw [List.append_assoc, List.append_assoc, quoteWith_append, readEntry]
  simp only [readText_quote, Option.bind_eq_bind, Option.bind_some, hds, hskip, hdoc,
    String.ofList_toList]

theorem startsValue_layout (v : Value) (style : Style) (level : Nat) :
    StartsValue (v.layout.print style level) := by
  have hsolid : ∀ {c : Char} {cs : List Char}, isBlank c = false → c ≠ ',' → c ≠ ']' → c ≠ '}' →
      StartsValue (c :: cs) := fun h₁ h₂ h₃ h₄ => ⟨_, _, rfl, h₁, h₂, h₃, h₄⟩
  cases v with
  | null => exact hsolid (by decide) (by decide) (by decide) (by decide)
  | boolean b => cases b <;> exact hsolid (by decide) (by decide) (by decide) (by decide)
  | number x =>
    show StartsValue (if x.isFinite then Number.plain x else "null".toList)
    split
    · obtain ⟨c, cs, hcs, hne⟩ := exists_plain_cons x
      have hblank : isBlank c = false := by
        simp [isBlank, hne ' ' rfl (by decide), hne '\t' rfl (by decide), hne '\n' rfl (by decide),
          hne '\r' rfl (by decide)]
      rw [hcs]
      exact hsolid hblank (hne ',' rfl (by decide)) (hne ']' rfl (by decide))
        (hne '}' rfl (by decide))
    · exact hsolid (by decide) (by decide) (by decide) (by decide)
  | text s => exact hsolid (by decide) (by decide) (by decide) (by decide)
  | list items =>
    cases items <;> exact hsolid (by decide) (by decide) (by decide) (by decide)
  | map entries =>
    cases entries <;> exact hsolid (by decide) (by decide) (by decide) (by decide)
  | host ref => exact hsolid (by decide) (by decide) (by decide) (by decide)

/-- A list is read if its items are, one level further down. -/
theorem recovers_list {style : Style} {items : List Value} {levels : Nat}
    (hitems : ∀ v ∈ items, ∀ level,
      Recovers (readDocumentWith number levels) toValue (v.layout.print style level) v.jsonForm)
    (level : Nat) :
    Recovers (readDocumentWith number (levels + 1)) toValue
      ((Value.list items).layout.print style level) (Value.list items).jsonForm := by
  intro rest _
  rw [Value.layout, Value.layoutItems_eq, Value.jsonForm]
  cases items with
  | nil => exact ⟨.list [], rfl, rfl⟩
  | cons v vs =>
    have htext : Layout.print style level (.list ((v :: vs).map Value.layout)) ++ rest =
        '[' :: (itemsText (fun v => v.layout.print style (level + 1))
          (Layout.lineBreak style (level + 1)) (Layout.lineBreak style level) ']' v vs ++ rest) := by
      simp [Layout.print, Layout.printItems_eq, itemsText, List.flatMap_map]
    obtain ⟨xs, hxs, hvalues⟩ := readBracket_items (.inl rfl) Layout.isBlank_of_mem_lineBreak
      Layout.isBlank_of_mem_lineBreak (fun w _ => startsValue_layout w style (level + 1))
      (fun w hw => hitems w hw (level + 1)) rest
    refine ⟨.list xs, ?_, ?_⟩
    · rw [htext, readDocumentWith, hxs]
      rfl
    · rw [toValue, toValues_eq, hvalues]

/-- A map with distinct keys is read if its values are, one level further down. -/
theorem recovers_map {style : Style} {entries : List (String × Value)} {levels : Nat}
    (hkeys : (Entries.keys entries).Nodup)
    (hentries : ∀ t ∈ entries, ∀ level,
      Recovers (readDocumentWith number levels) toValue (t.2.layout.print style level) t.2.jsonForm)
    (level : Nat) :
    Recovers (readDocumentWith number (levels + 1)) toValue
      ((Value.map entries).layout.print style level) (Value.map entries).jsonForm := by
  intro rest _
  rw [Value.layout, Value.layoutEntries_eq, Value.jsonForm]
  cases entries with
  | nil => exact ⟨.map [], rfl, rfl⟩
  | cons t ts =>
    have htext : Layout.print style level
        (.map ((t :: ts).map fun t => (quoteWith escapeControls t.1, t.2.layout))) ++ rest =
        '{' :: (itemsText (entryText style (level + 1)) (Layout.lineBreak style (level + 1))
          (Layout.lineBreak style level) '}' t ts ++ rest) := by
      simp [Layout.print, Layout.printEntries_eq, Layout.printEntry, itemsText, entryText,
        List.flatMap_map]
    obtain ⟨xs, hxs, hvalues⟩ := readBracket_items (.inr rfl) Layout.isBlank_of_mem_lineBreak
      Layout.isBlank_of_mem_lineBreak
      (fun t _ => startsValue_entryText style (level + 1) t)
      (fun t ht => recovers_entry t (startsValue_layout t.2 style (level + 1))
        (hentries t ht (level + 1))) rest
    -- distinct keys stay where they are
    have hkeys' : (Entries.keys xs).Nodup := by
      rw [← Entries.keys_map toValue, hvalues, Entries.keys_map]
      exact hkeys
    refine ⟨.map xs, ?_, ?_⟩
    · rw [htext, readDocumentWith, hxs]
      simp only [Option.map_some, Entries.ofPairs_of_nodup hkeys']
    · rw [toValue, toEntries_eq, Entries.ofPairs_of_nodup, hvalues]
      rw [Entries.keys_map]
      exact hkeys'

/-- A value is read from its text at any level of a document.  The induction is on the values inside;
each list or map takes one of the levels that the reader has left. -/
theorem recovers_print (style : Style) (v : Value) {levels : Nat} (hlevels : v.levels ≤ levels)
    (hkeys : v.KeysDistinct)
    (hnumbers : ∀ x, .number x ∈ v.subvalues → x.isFinite →
      Recovers number toValue (Number.plain x) (.number x)) (level : Nat) :
    Recovers (readDocumentWith number levels) toValue (v.layout.print style level) v.jsonForm := by
  induction v using Value.induction_inside generalizing levels level with
  | h v ih =>
    have hinside : ∀ w ∈ v.inside, ∀ {n : Nat}, w.levels ≤ n → ∀ level,
        Recovers (readDocumentWith number n) toValue (w.layout.print style level) w.jsonForm := by
      intro w hw n hn level
      refine ih w hw hn (fun entries h => hkeys entries ?_) (fun x h => hnumbers x ?_) level
      · exact Value.mem_subvalues_of_inside hw h
      · exact Value.mem_subvalues_of_inside hw h
    cases v with
    | null =>
      rw [Value.jsonForm]
      exact recovers_null levels
    | boolean b =>
      rw [Value.jsonForm]
      exact recovers_boolean levels b
    | number x =>
      rw [Value.layout, Value.jsonForm]
      split
      · next hfinite => exact recovers_plain (hnumbers x (Value.self_mem_subvalues _) hfinite) levels
      · exact recovers_null levels
    | text s =>
      rw [Value.jsonForm]
      exact recovers_text levels s
    | host ref =>
      rw [Value.jsonForm]
      exact recovers_text levels (Value.hostText ref)
    | list items =>
      rw [Value.levels] at hlevels
      obtain ⟨n, rfl⟩ := Nat.exists_eq_add_of_le' (Nat.le_of_add_left_le hlevels)
      have hle := highest_le.1 (Nat.le_of_succ_le_succ hlevels)
      refine recovers_list (fun v hv => hinside v hv (hle _ ?_)) level
      exact List.mem_map_of_mem hv
    | map entries =>
      rw [Value.levels] at hlevels
      obtain ⟨n, rfl⟩ := Nat.exists_eq_add_of_le' (Nat.le_of_add_left_le hlevels)
      have hle := highest_le.1 (Nat.le_of_succ_le_succ hlevels)
      refine recovers_map (hkeys _ (Value.self_mem_subvalues _))
        (fun t ht => hinside t.2 (List.mem_map_of_mem ht) (hle _ ?_)) level
      exact List.mem_map.2 ⟨t, ht, rfl⟩

end

/-! ### Whole texts -/

/-- A whole text is read as what stands at its front if nothing else does. -/
theorem readWith?_of_recovers {number : Reader Json} {cs : List Char} {v : Value}
    (hstarts : StartsValue cs) (h : Recovers (readDocumentWith number maxLevels) toValue cs v) :
    (readWith? number (String.ofList cs)).map toValue = some v := by
  obtain ⟨doc, hdoc, hvalue⟩ := h [] endsValue_nil
  have hskip : skipBlanks cs = cs := by
    have hhead := hstarts.head []
    rw [List.append_nil] at hhead
    exact skipBlanks_append (fun c hc => absurd hc List.not_mem_nil) hhead
  rw [List.append_nil] at hdoc
  unfold readWith?
  rw [String.toList_ofList, hskip, hdoc]
  exact congrArg some hvalue

/-- **The JSON text of a value reads back.**  Let the lists and maps of a value be nested within the
limit of the reader and the keys of its maps distinct, and let the way in which the reader reads numbers
recover each finite number of the value from its text.  Then the text of the value, compact or indented,
is a document of the same value, but for null in place of numbers that are not finite and texts in place
of host objects; items and entries keep their order. -/
theorem readWith?_toJson {number : Reader Json} {v : Value} (hlevels : v.levels ≤ maxLevels)
    (hkeys : v.KeysDistinct)
    (hnumbers : ∀ x, .number x ∈ v.subvalues → x.isFinite →
      Recovers number toValue (Number.plain x) (.number x)) (style : Style) :
    (readWith? number (v.toJson style)).map toValue = some v.jsonForm :=
  readWith?_of_recovers (startsValue_layout v style 0) (recovers_print style v hlevels hkeys hnumbers 0)

/-- A name that needs escapes, a negative zero, a number that is not finite and a host object. -/
theorem readWith?_toJson_nested :
    (readWith? readNumber (Value.toJson .indented (.map [("a\"\n", .list [.number 1.5, .number (-0.0),
        .number (0.0 / 0.0)]), ("h", .host ⟨0, "Array"⟩), ("e", .map [])]))).map toValue =
      some (.map [("a\"\n", .list [.number 1.5, .number (-0.0), .null]), ("h", .text "[Array]"),
        ("e", .map [])]) := by
  have hfinite : (1.5 : Float).isFinite = true ∧ (-0.0 : Float).isFinite = true ∧
      (0.0 / 0.0 : Float).isFinite = false := by decide +kernel
  have hhalf : readFloat? (Number.plain 1.5) = some 1.5 := by decide +kernel
  have hzero : readFloat? (Number.plain (-0.0)) = some (-0.0) := by decide +kernel
  refine (readWith?_toJson (v := .map [("a\"\n", .list [.number 1.5, .number (-0.0),
    .number (0.0 / 0.0)]), ("h", .host ⟨0, "Array"⟩), ("e", .map [])]) ?_ ?_ ?_ .indented).trans ?_
  · simp [Value.levels, highest, maxLevels]
  · intro entries hentries
    simp [Value.subvalues_eq, Value.inside] at hentries
    rcases hentries with rfl | rfl
    · decide
    · decide
  · intro x hx hfin
    simp [Value.subvalues_eq, Value.inside] at hx
    rcases hx with rfl | rfl | rfl
    · exact recovers_number hhalf
    · exact recovers_number hzero
    · exact absurd hfin (by simp [hfinite])
  · simp [Value.jsonForm, hfinite, Value.hostText]

/-- The reader of documents reads back a value if it reads back its finite numbers. -/
theorem read?_toJson {v : Value} (hlevels : v.levels ≤ maxLevels) (hkeys : v.KeysDistinct)
    (hnumbers : ∀ x, .number x ∈ v.subvalues → x.isFinite → readFloat? (Number.plain x) = some x)
    (style : Style) : (read? (v.toJson style)).map toValue = some v.jsonForm :=
  readWith?_of_recovers (startsValue_layout v style 0)
    (recovers_print style v hlevels hkeys (fun x hx h => recovers_number (hnumbers x hx h)) 0)

end Json

end HostExpr
