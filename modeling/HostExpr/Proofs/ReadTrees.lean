import HostExpr.Proofs.FailureCauses
import HostExpr.Proofs.ReadNumbers
import HostExpr.Proofs.Soundness
import HostExpr.Proofs.Stretches

/-!
# What holds of every tree that is read

The names in a tree are words of the text that spells it, and its numbers are numbers of the text.

* `Lexer.IsIdentifier`: a word that is no keyword, with `Key.toIndex?_name`: it stands for no position in a
  list, as `Lexer.IsWord.readIndex?_eq_none` says of all words;
* `Token.Readable`, with `readable_of_mem_tokenize`: what holds of the tokens of every text;
* `Expr.ownTokens`: the names and the number of an expression, with `Spells.exists_of_mem_ownTokens`: they are
  among the tokens that spell it;
* `Spells.exists_of_mem_nodes`: all expressions inside are spelled by some of these tokens;
* `Expr.WellFormed`, `parse_wellFormed`: what holds of every expression in a tree that is read.
-/

namespace HostExpr

open Lexer

/-! ### Identifiers -/

namespace Lexer

/-- A word that is no keyword. -/
structure IsIdentifier (name : String) : Prop where
  isWord : IsWord name.toList
  notMem : name ∉ ["true", "TRUE", "false", "FALSE", "and", "or"]

/-- A word spells no position in a list. -/
theorem IsWord.readIndex?_eq_none {cs : List Char} (h : IsWord cs) : Decimal.readIndex? cs = none := by
  obtain ⟨c, ds, rfl, hc, -⟩ := h
  have hplus : c ≠ '+' := by
    rintro rfl
    exact absurd hc (by decide)
  have hdigit : Decimal.isDigit c = false := by
    rw [← Bool.not_eq_true]
    intro hdigit
    rw [(digit_cases hdigit).2] at hc
    exact absurd hc Bool.false_ne_true
  unfold Decimal.readIndex?
  simp [hplus, hdigit]

end Lexer

/-- The key that an identifier is stands for no position in a list. -/
theorem Key.toIndex?_name {name : String} (h : IsIdentifier name) : (Key.name name).toIndex? = none :=
  h.isWord.readIndex?_eq_none

/-! ### Tokens of texts -/

/-- What holds of the tokens of every text: an identifier is a word that is no keyword, and a number is a
number. -/
def Token.Readable : Token → Prop
  | identifier name => IsIdentifier name
  | number x => x.isNaN = false
  | _ => True

theorem Token.SpelledBy.readable {t : Token} {cs rest : List Char} (h : t.SpelledBy cs rest) :
    t.Readable := by
  cases h with
  | keyword _ hmem =>
    have hall : ∀ k ∈ keywords, k.2.Readable := by simp [keywords, Readable]
    exact hall _ hmem
  | identifier hlongest hnot =>
    have hnames : keywords.map Prod.fst = ["true", "TRUE", "false", "FALSE", "and", "or"] := rfl
    refine ⟨?_, fun hmem => ?_⟩
    · rw [String.toList_ofList]
      exact hlongest.1
    · rw [← hnames] at hmem
      obtain ⟨⟨_, t⟩, ht, rfl⟩ := List.mem_map.1 hmem
      exact hnot t ht
  | text => trivial
  | number _ _ hread => exact Number.isNaN_of_read? hread
  | symbol hmem _ =>
    have hall : ∀ s ∈ symbols, s.2.Readable := by simp [symbols, Readable]
    exact hall _ hmem

theorem Lexer.Divides.readable {ss : List Stretch} {cs : List Char} (h : Divides ss cs) {p : Nat}
    {l : Lexeme} (hl : l ∈ placed p ss) : l.token.Readable := by
  induction h generalizing p with
  | nil => exact absurd hl List.not_mem_nil
  | @cons s ss rest hs _ ih =>
    cases s with
    | token t cs =>
      rcases List.mem_cons.1 hl with rfl | hmem
      · exact Token.SpelledBy.readable hs
      · exact ih hmem
    | passed c => exact ih hl
    | unclosed cs => exact ih hl

theorem readable_of_mem_tokenize {source : String} {l : Lexeme} (h : l ∈ tokenize source) :
    l.token.Readable := by
  unfold tokenize at h
  rw [tokens_eq_placed] at h
  rcases List.mem_append.1 h with hmem | hend
  · exact (stretches_divides _ _).readable hmem
  · obtain rfl := List.mem_singleton.1 hend
    trivial

/-! ### Tokens of trees -/

/-- The name of a step of a path. -/
def Segment.ownName? : Segment → Option String
  | name x => some x
  | key _ => none
  | call method _ => some method

/-- The names and the number of an expression, as tokens, without those of the expressions inside it. -/
def Expr.ownTokens : Expr → List Token
  | function params _ => params.map .identifier
  | number x => [.number x]
  | path ss => ss.filterMap fun s => s.ownName?.map .identifier
  | _ => []

namespace Grammar

variable {arg : Expr → List Lexeme → Prop} {s : Segment} {ts : List Lexeme} {x : String}

theorem Params.exists_mem {xs : List String} (h : Params xs ts) (hx : x ∈ xs) :
    ∃ p, ⟨.identifier x, p⟩ ∈ ts := by
  cases h with
  | bare =>
    obtain rfl := List.mem_singleton.1 hx
    exact ⟨_, List.mem_singleton_self _⟩
  | listed hnames =>
    obtain ⟨us, hnamed, hsub⟩ := hnames.exists_of_mem hx
    cases hnamed with
    | mk => exact ⟨_, List.mem_cons_of_mem _ (List.mem_append_left _ (hsub (List.mem_singleton_self _)))⟩

theorem Step.exists_mem (h : Step arg s ts) (hx : s.ownName? = some x) :
    ∃ p, ⟨.identifier x, p⟩ ∈ ts := by
  cases h with
  | name | call =>
    obtain rfl := Option.some.inj hx
    exact ⟨_, List.mem_cons_self⟩

theorem Further.exists_mem (h : Further arg s ts) (hx : s.ownName? = some x) :
    ∃ p, ⟨.identifier x, p⟩ ∈ ts := by
  cases h with
  | member hstep =>
    obtain ⟨p, hmem⟩ := hstep.exists_mem hx
    exact ⟨p, List.mem_cons_of_mem _ hmem⟩
  | key => exact absurd hx (by simp [Segment.ownName?])

end Grammar

open Grammar

namespace Spells

variable {r : Rank} {e : Expr} {ts : List Lexeme}

/-- The names and the number of an expression are among the tokens that spell it. -/
theorem exists_of_mem_ownTokens (h : Spells r e ts) {t : Token} (ht : t ∈ e.ownTokens) :
    ∃ p, ⟨t, p⟩ ∈ ts := by
  induction r using Rank.induction_tighter with
  | h r ih =>
    cases h with
    | lift hr h => exact ih hr h
    | function hparams _ =>
      obtain ⟨x, hx, rfl⟩ := List.mem_map.1 ht
      obtain ⟨p, hmem⟩ := hparams.exists_mem hx
      exact ⟨p, List.mem_append_left _ hmem⟩
    | number =>
      obtain rfl := List.mem_singleton.1 ht
      exact ⟨_, List.mem_singleton_self _⟩
    | path hhead hrun =>
      obtain ⟨s, hs, hname⟩ := List.mem_filterMap.1 ht
      obtain ⟨x, hx, rfl⟩ := Option.map_eq_some_iff.1 hname
      rcases List.mem_cons.1 hs with rfl | hmem
      · obtain ⟨p, hp⟩ := hhead.exists_mem hx
        exact ⟨p, List.mem_append_left _ hp⟩
      · obtain ⟨us, hfurther, hsub⟩ := hrun.exists_of_mem hmem
        obtain ⟨p, hp⟩ := hfurther.exists_mem hx
        exact ⟨p, List.mem_append_right _ (hsub hp)⟩
    -- all others have neither names nor a number of their own
    | _ => exact absurd ht List.not_mem_nil

/-- All expressions inside a spelled one are spelled by some of its tokens. -/
theorem exists_of_mem_nodes (h : Spells r e ts) {n : Expr} (hn : n ∈ e.nodes) :
    ∃ s us, Spells s n us ∧ us ⊆ ts := by
  refine Expr.forall_mem_nodes (P := fun n => ∃ s us, Spells s n us ∧ us ⊆ ts) ?_
    ⟨r, ts, h, List.Subset.refl _⟩ n hn
  rintro e ⟨s, us, hspells, hsub⟩ p hp
  obtain ⟨s', vs, hpart, hsub'⟩ := hspells.exists_of_mem_parts hp
  exact ⟨s', vs, hpart, List.Subset.trans hsub' hsub⟩

end Spells

/-! ### Trees of texts -/

/-- What holds of each expression in a tree that is read, without the expressions inside it. -/
structure Expr.WellFormed (e : Expr) : Prop where
  /-- A path starts with a name or a call. -/
  path_named : ∀ ss, e = path ss → ∃ s rest, ss = s :: rest ∧ s.isNamed
  /-- The names in a path are words that are no keywords. -/
  name_isIdentifier : ∀ ss x, e = path ss → .name x ∈ ss → IsIdentifier x
  /-- So are the names of the methods. -/
  method_isIdentifier : ∀ ss method args, e = path ss → .call method args ∈ ss → IsIdentifier method
  /-- So are the parameters of a function. -/
  param_isIdentifier : ∀ params body, e = function params body → ∀ x ∈ params, IsIdentifier x
  /-- A number is a number. -/
  number_isNumber : ∀ x, e = number x → x.isNaN = false

/-- What is spelled by tokens of a text is well-formed. -/
theorem Spells.wellFormed {r : Rank} {e : Expr} {ts : List Lexeme} (h : Spells r e ts)
    (hts : ∀ l ∈ ts, l.token.Readable) : e.WellFormed := by
  have hown : ∀ t ∈ e.ownTokens, t.Readable := by
    intro t ht
    obtain ⟨p, hp⟩ := h.exists_of_mem_ownTokens ht
    exact hts _ hp
  constructor
  · rintro ss rfl
    exact h.head_isNamed rfl
  · rintro ss x rfl hmem
    exact hown (.identifier x) (List.mem_filterMap.2 ⟨_, hmem, rfl⟩)
  · rintro ss method args rfl hmem
    exact hown (.identifier method) (List.mem_filterMap.2 ⟨_, hmem, rfl⟩)
  · rintro params body rfl x hx
    exact hown (.identifier x) (List.mem_map_of_mem hx)
  · rintro x rfl
    exact hown (.number x) (List.mem_singleton_self _)

/-- A text that is read is spelled by its tokens. -/
theorem spells_of_parse {source : String} {e : Expr} (h : parse source = .ok e) :
    Spells .expression e ((tokenize source).takeWhile fun l => l.token ≠ .eof) := by
  obtain ⟨rest, hread⟩ := Parser.exists_of_run h
  have hspells := (Parse.input_sound hread).1
  rw [Parser.ofSource, Parser.takeWhile_ofTokens] at hspells
  exact hspells

/-- A name that is no position in a list gives null there. -/
theorem Segment.eval_name_list {W : Type} (hosts : HostInterface W) (root : Value) (items : List Value)
    (state : W) {name : String} (h : (Key.name name).toIndex? = none) :
    (Segment.name name).eval hosts root (.list items) state = .ok .null state := by
  have hlookup : (Value.list items).lookup hosts state (.name name) = .ok .null := by
    rw [Value.lookup, h]
    rfl
  show Eval.ofExcept ((Value.list items).lookup hosts state (.name name)) state = .ok .null state
  rw [hlookup]
  rfl

/-- **What holds of every tree that is read from a text.**  Everywhere in it, in function bodies, arguments
and computed keys as well, each path starts with a name or a call, all names of paths, methods and
parameters are words that are no keywords, and no number is the double that is not a number.  So a name in
a path is no position in a list, and whatever the items and the hosts are, a list has null there. -/
theorem parse_wellFormed {source : String} {e : Expr} (h : parse source = .ok e) :
    (∀ n ∈ e.nodes, n.WellFormed) ∧
    ∀ ss x, .path ss ∈ e.nodes → .name x ∈ ss → (Key.name x).toIndex? = none ∧
      ∀ (W : Type) (hosts : HostInterface W) (root : Value) (items : List Value) (state : W),
        (Segment.name x).eval hosts root (.list items) state = .ok .null state := by
  have hnodes : ∀ n ∈ e.nodes, n.WellFormed := by
    intro n hn
    obtain ⟨r, us, hspells, hsub⟩ := (spells_of_parse h).exists_of_mem_nodes hn
    refine hspells.wellFormed fun l hl => ?_
    exact readable_of_mem_tokenize (List.takeWhile_subset _ (hsub hl))
  refine ⟨hnodes, fun ss x hss hx => ?_⟩
  have hindex : (Key.name x).toIndex? = none :=
    Key.toIndex?_name ((hnodes _ hss).name_isIdentifier ss x rfl hx)
  exact ⟨hindex, fun W hosts root items state => Segment.eval_name_list hosts root items state hindex⟩

/-- The body of a function, with a negative key and a call in it. -/
def rowsPath : Expr :=
  .path [.name "rows", .key (.number (-1.5)), .call "or2" [.path [.name "_x"]]]

/-- The names in `_x => rows[-1.5].or2(_x)` are no keywords, and `rows` finds nothing in a list. -/
theorem parse_wellFormed_function :
    parse "_x => rows[-1.5].or2(_x)" = .ok (.function ["_x"] rowsPath) ∧
    IsIdentifier "_x" ∧ IsIdentifier "rows" ∧ IsIdentifier "or2" ∧ (-1.5 : Float).isNaN = false ∧
    (Segment.name "rows").eval HostTable.interface .null (.list [.text "0"]) (⟨[]⟩ : HostTable Unit) =
      .ok .null ⟨[]⟩ := by
  have htokens : tokenize "_x => rows[-1.5].or2(_x)" = [⟨.identifier "_x", 0⟩, ⟨.arrow, 3⟩,
      ⟨.identifier "rows", 6⟩, ⟨.openBracket, 10⟩, ⟨.number (-1.5), 11⟩, ⟨.closeBracket, 15⟩, ⟨.dot, 16⟩,
      ⟨.identifier "or2", 17⟩, ⟨.openParen, 20⟩, ⟨.identifier "_x", 21⟩, ⟨.closeParen, 23⟩,
      ⟨.eof, 24⟩] := by
    decide +kernel
  have hread : parse "_x => rows[-1.5].or2(_x)" = .ok (.function ["_x"] rowsPath) := by
    rw [parse, Parser.ofSource, htokens]
    rfl
  obtain ⟨hnodes, hlist⟩ := parse_wellFormed hread
  have hpath : rowsPath ∈ (Expr.function ["_x"] rowsPath).nodes :=
    Expr.mem_nodes_of_part (List.mem_singleton_self _) rowsPath.self_mem_nodes
  have hkey : .number (-1.5) ∈ (Expr.function ["_x"] rowsPath).nodes :=
    Expr.mem_nodes_of_part (List.mem_singleton_self _)
      (Expr.mem_nodes_of_part List.mem_cons_self (Expr.self_mem_nodes _))
  have hrows := hnodes _ hpath
  refine ⟨hread, ?_, ?_, ?_, ?_, ?_⟩
  · exact (hnodes _ (Expr.self_mem_nodes _)).param_isIdentifier _ _ rfl _ List.mem_cons_self
  · exact hrows.name_isIdentifier _ _ rfl List.mem_cons_self
  · exact hrows.method_isIdentifier _ "or2" _ rfl (List.mem_of_getElem? (i := 2) rfl)
  · exact (hnodes _ hkey).number_isNumber _ rfl
  · exact (hlist _ _ hpath List.mem_cons_self).2 _ _ _ _ _

end HostExpr
