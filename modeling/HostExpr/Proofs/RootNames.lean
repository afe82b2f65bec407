import HostExpr.Proofs.HostTables
import HostExpr.Proofs.Parts
import HostExpr.Proofs.Soundness

/-!
# An expression depends on the root names that it mentions

Of a map at the root, an evaluation sees the names with which paths start and nothing else.

* `Expr.rootNames`: the names with which the paths inside an expression start;
* `Expr.eval_eq_of_rootNames`: evaluations that start at maps with the same values under these names
  are the same;
* `Setup.Closed`: no reference leads nowhere, which binding host objects keeps
  (`Setup.Closed.bindHost`);
* `Expr.run_bindBundled`: the bundled objects change nothing for an expression that mentions neither
  of their names.

A path that starts with a computed key may read any name, and an empty path is the whole root
(`Expr.depends_on_rootNames_not_named`).  No such path can be written (`Spells.pathsNamed`).
-/

namespace HostExpr

/-! ### Root names -/

namespace Expr

/-- The name with which a path starts. -/
def leadingName? : List Segment → Option String
  | .name name :: _ => some name
  | _ => none

/-- The names with which the paths inside an expression start. -/
def rootNames (e : Expr) : List String :=
  e.paths.filterMap leadingName?

end Expr

/-! ### Evaluation

The loops over operands, items and steps do the same from two roots if the expressions that they
evaluate do. -/

section

variable {W : Type} {hosts : HostInterface W} {root root' : Value}

theorem evalAny_root_congr {es : List Expr}
    (h : ∀ e ∈ es, e.eval hosts root = e.eval hosts root') (v : Value) :
    evalAny hosts root v es = evalAny hosts root' v es := by
  induction es generalizing v with
  | nil => rw [evalAny, evalAny]
  | cons e es ih =>
    obtain ⟨he, hes⟩ := List.forall_mem_cons.1 h
    simp only [evalAny, he, ih hes]

theorem evalAll_root_congr {es : List Expr}
    (h : ∀ e ∈ es, e.eval hosts root = e.eval hosts root') (v : Value) :
    evalAll hosts root v es = evalAll hosts root' v es := by
  induction es generalizing v with
  | nil => rw [evalAll, evalAll]
  | cons e es ih =>
    obtain ⟨he, hes⟩ := List.forall_mem_cons.1 h
    simp only [evalAll, he, ih hes]

theorem evalSum_root_congr {ts : List (AddOp × Expr)}
    (h : ∀ e ∈ ts.map Prod.snd, e.eval hosts root = e.eval hosts root') (running : Running) :
    evalSum hosts root running ts = evalSum hosts root' running ts := by
  induction ts generalizing running with
  | nil => rw [evalSum, evalSum]
  | cons t ts ih =>
    obtain ⟨he, hes⟩ := List.forall_mem_cons.1 h
    simp only [evalSum, he, ih hes]

theorem evalProduct_root_congr {ts : List (MulOp × Expr)}
    (h : ∀ e ∈ ts.map Prod.snd, e.eval hosts root = e.eval hosts root') (x : Float) :
    evalProduct hosts root x ts = evalProduct hosts root' x ts := by
  induction ts generalizing x with
  | nil => rw [evalProduct, evalProduct]
  | cons t ts ih =>
    obtain ⟨he, hes⟩ := List.forall_mem_cons.1 h
    simp only [evalProduct, he, ih hes]

theorem evalItems_root_congr {es : List Expr}
    (h : ∀ e ∈ es, e.eval hosts root = e.eval hosts root') :
    evalItems hosts root es = evalItems hosts root' es := by
  induction es with
  | nil => rw [evalItems, evalItems]
  | cons e es ih =>
    obtain ⟨he, hes⟩ := List.forall_mem_cons.1 h
    simp only [evalItems, he, ih hes]

theorem evalEntries_root_congr {ts : List (String × Expr)}
    (h : ∀ e ∈ ts.map Prod.snd, e.eval hosts root = e.eval hosts root') :
    evalEntries hosts root ts = evalEntries hosts root' ts := by
  induction ts with
  | nil => rw [evalEntries, evalEntries]
  | cons t ts ih =>
    obtain ⟨he, hes⟩ := List.forall_mem_cons.1 h
    simp only [evalEntries, he, ih hes]

theorem Segment.eval_root_congr {s : Segment}
    (h : ∀ e ∈ s.args, e.eval hosts root = e.eval hosts root') (v : Value) :
    s.eval hosts root v = s.eval hosts root' v := by
  cases s with
  | name x => rw [Segment.eval, Segment.eval]
  | key offset => rw [Segment.eval, Segment.eval, h offset (List.mem_singleton_self _)]
  | call method args =>
    have hargs : evalItems hosts root args = evalItems hosts root' args := evalItems_root_congr h
    rw [Segment.eval, Segment.eval, hargs]

theorem evalPath_root_congr {ss : List Segment}
    (h : ∀ e ∈ ss.flatMap Segment.args, e.eval hosts root = e.eval hosts root') (v : Value) :
    evalPath hosts root v ss = evalPath hosts root' v ss := by
  induction ss generalizing v with
  | nil => rw [evalPath, evalPath]
  | cons s ss ih =>
    obtain ⟨hs, hss⟩ := List.forall_mem_append.1 h
    simp only [evalPath, Segment.eval_root_congr hs, ih hss]

/-- The first step of a path is the same from two maps that have the same value under its name.  A
call of a map fails, whatever the map is. -/
theorem evalPath_start_congr {entries entries' : List (String × Value)} {ss : List Segment}
    (hnamed : ∃ s rest, ss = s :: rest ∧ s.isNamed)
    (hname : ∀ name, Expr.leadingName? ss = some name →
      Entries.find? name entries = Entries.find? name entries') :
    evalPath hosts root (.map entries) ss = evalPath hosts root (.map entries') ss := by
  obtain ⟨s, rest, rfl, hs⟩ := hnamed
  rw [evalPath, evalPath]
  have hfirst : s.eval hosts root (.map entries) = s.eval hosts root (.map entries') := by
    cases s with
    | name x =>
      rw [Segment.eval, Segment.eval, Value.get, Value.get]
      simp only [Value.lookup, Key.toName, hname x rfl]
    | key offset => exact absurd hs (by simp [Segment.isNamed])
    | call method args => rw [Segment.eval, Segment.eval]; rfl
  rw [hfirst]
  rfl

namespace Expr

/-- An expression that is no path comes to the same from two roots if its parts do; of a path this
has to hold from its start as well. -/
theorem eval_root_congr {e : Expr} (hparts : ∀ p ∈ e.parts, p.eval hosts root = p.eval hosts root')
    (hsteps : ∀ ss, e.steps? = some ss →
      evalPath hosts root' root ss = evalPath hosts root' root' ss) :
    e.eval hosts root = e.eval hosts root' := by
  cases e with
  | cond test yes no =>
    obtain ⟨htest, hyes, hno, -⟩ := by simpa only [parts, List.forall_mem_cons] using hparts
    rw [Expr.eval, Expr.eval, htest, hyes, hno]
  | any first rest =>
    obtain ⟨hfirst, hrest⟩ := List.forall_mem_cons.1 hparts
    rw [Expr.eval, Expr.eval, hfirst]
    simp only [evalAny_root_congr hrest]
  | all first rest =>
    obtain ⟨hfirst, hrest⟩ := List.forall_mem_cons.1 hparts
    rw [Expr.eval, Expr.eval, hfirst]
    cases rest with
    | nil => rfl
    | cons e es => simp only [evalAll_root_congr hrest]
  | compare op left right =>
    obtain ⟨hleft, hright, -⟩ := by simpa only [parts, List.forall_mem_cons] using hparts
    rw [Expr.eval, Expr.eval, hleft, hright]
  | sum first rest =>
    obtain ⟨hfirst, hrest⟩ := List.forall_mem_cons.1 hparts
    rw [Expr.eval, Expr.eval, hfirst]
    cases rest with
    | nil => rfl
    | cons t ts => simp only [evalSum_root_congr hrest]
  | product first rest =>
    obtain ⟨hfirst, hrest⟩ := List.forall_mem_cons.1 hparts
    rw [Expr.eval, Expr.eval, hfirst]
    cases rest with
    | nil => rfl
    | cons t ts => simp only [evalProduct_root_congr hrest]
  | function params body => rw [Expr.eval, Expr.eval]
  | wrapped inner => rw [Expr.eval, Expr.eval, hparts inner (List.mem_singleton_self _)]
  | not operand => rw [Expr.eval, Expr.eval, hparts operand (List.mem_singleton_self _)]
  | list items =>
    have hitems : evalItems hosts root items = evalItems hosts root' items :=
      evalItems_root_congr hparts
    rw [Expr.eval, Expr.eval, hitems]
  | map entries =>
    have hentries : evalEntries hosts root entries = evalEntries hosts root' entries :=
      evalEntries_root_congr hparts
    rw [Expr.eval, Expr.eval, hentries]
  | boolean b => rw [Expr.eval, Expr.eval]
  | number x => rw [Expr.eval, Expr.eval]
  | text s => rw [Expr.eval, Expr.eval]
  | path segments =>
    rw [Expr.eval, Expr.eval, evalPath_root_congr hparts]
    exact hsteps segments rfl

/-- Evaluations that start at two maps do the same if the maps have the same values under the names
with which the paths of the expression start. -/
theorem eval_eq_of_rootNames {entries entries' : List (String × Value)} {e : Expr}
    (hnamed : e.PathsNamed)
    (hnames : ∀ name ∈ e.rootNames, Entries.find? name entries = Entries.find? name entries') :
    e.eval hosts (.map entries) = e.eval hosts (.map entries') := by
  have hpaths : ∀ ss ∈ e.paths, (∃ s rest, ss = s :: rest ∧ s.isNamed) ∧
      ∀ name, leadingName? ss = some name →
        Entries.find? name entries = Entries.find? name entries' := fun ss hss =>
    ⟨hnamed ss hss, fun name hname => hnames name (List.mem_filterMap.2 ⟨ss, hss, hname⟩)⟩
  clear hnamed hnames
  induction e using induction_parts with
  | h e ih =>
    obtain ⟨hsteps, hparts⟩ := forall_mem_paths.1 hpaths
    refine eval_root_congr (fun p hp => ih p hp (hparts p hp)) fun ss hss => ?_
    obtain ⟨hhead, hname⟩ := hsteps ss hss
    exact evalPath_start_congr hhead hname

end Expr

end

/-! ### The bundled objects -/

namespace Setup

variable {σ : Type} {setup : Setup σ}

/-- All references of a context and of the types of its host objects lead to objects that are
there. -/
structure Closed (setup : Setup σ) : Prop where
  root : setup.context.root.Within fun ref => ref.id < setup.hosts.objects.length
  hosts : setup.hosts.Within fun ref => ref.id < setup.hosts.objects.length

/-- Binding a host object keeps a setup closed, if its type refers to no objects but those that are
there and itself. -/
theorem Closed.bindHost (h : setup.Closed) (name : String) {object : HostObject σ}
    (hobject : object.descriptor.Within fun ref => ref.id < setup.hosts.objects.length + 1) :
    (setup.bindHost name object).Closed := by
  have hlength : (setup.bindHost name object).hosts.objects.length =
      setup.hosts.objects.length + 1 := List.length_append
  have hnew : (Value.host ⟨setup.hosts.objects.length, object.descriptor.typeName⟩).Within
      fun ref => ref.id < setup.hosts.objects.length + 1 :=
    Value.within_host.2 (Nat.lt_succ_self _)
  constructor
  · rw [hlength]
    show (setup.context.bind name _).root.Within _
    unfold Context.bind
    split
    · next entries hroot =>
      refine Value.within_map.2 fun t ht => ?_
      rcases Entries.mem_of_mem_insert ht with rfl | hmem
      · exact hnew
      · exact (Value.within_map.1 (hroot ▸ h.root) t hmem).mono fun _ => Nat.lt_succ_of_lt
    · refine Value.within_map.2 fun t ht => ?_
      obtain rfl := List.mem_singleton.1 ht
      exact hnew
  · rw [hlength]
    refine List.forall_mem_append.2 ⟨fun other hother => ?_, List.forall_mem_singleton.2 hobject⟩
    exact (h.hosts other hother).mono fun _ => Nat.lt_succ_of_lt

/-- Every name but those of the bundled objects keeps its value. -/
theorem exists_root_bindBundled {entries : List (String × Value)}
    (hroot : setup.context.root = .map entries) (state : σ) :
    ∃ entries', (setup.bindBundled state).context = ⟨.map entries'⟩ ∧
      ∀ name, name ≠ "String" → name ≠ "Array" →
        Entries.find? name entries' = Entries.find? name entries := by
  obtain ⟨⟨root⟩, hosts⟩ := setup
  obtain rfl : root = .map entries := hroot
  refine ⟨_, rfl, fun name hString hArray => ?_⟩
  rw [Entries.find?_insert_of_ne hArray, Entries.find?_insert_of_ne hString]

theorem hosts_bindBundled (setup : Setup σ) (state : σ) :
    (setup.bindBundled state).hosts =
      ⟨setup.hosts.objects ++ [⟨TextHost.descriptor, state⟩, ⟨ListHost.descriptor, state⟩]⟩ := by
  show HostTable.mk (setup.hosts.objects ++ [_] ++ [_]) = _
  rw [List.append_assoc]
  rfl

end Setup

/-! ### Whole runs -/

namespace Expr

theorem run_eq_of_rootNames {W : Type} {hosts : HostInterface W}
    {entries entries' : List (String × Value)} {e : Expr} (hnamed : e.PathsNamed)
    (hnames : ∀ name ∈ e.rootNames, Entries.find? name entries = Entries.find? name entries')
    (state : W) : e.run hosts ⟨.map entries⟩ state = e.run hosts ⟨.map entries'⟩ state := by
  unfold run
  rw [eval_eq_of_rootNames hnamed hnames]

/-- An expression that mentions neither of the bundled objects runs with them as without them. -/
theorem run_bindBundled {σ : Type} {setup : Setup σ} (hclosed : setup.Closed)
    {entries : List (String × Value)} (hroot : setup.context.root = .map entries) {e : Expr}
    (hnamed : e.PathsNamed) (hString : "String" ∉ e.rootNames) (hArray : "Array" ∉ e.rootNames)
    (state : σ) :
    e.run HostTable.interface (setup.bindBundled state).context (setup.bindBundled state).hosts =
      ((e.run HostTable.interface setup.context setup.hosts).1,
        ⟨(e.run HostTable.interface setup.context setup.hosts).2.objects ++
          [⟨TextHost.descriptor, state⟩, ⟨ListHost.descriptor, state⟩]⟩) := by
  obtain ⟨entries', hcontext, hfind⟩ := setup.exists_root_bindBundled hroot state
  have hnames : ∀ name ∈ e.rootNames,
      Entries.find? name entries' = Entries.find? name entries := fun name hname =>
    hfind name (fun heq => hString (heq ▸ hname)) (fun heq => hArray (heq ▸ hname))
  have hplain : setup.context = ⟨.map entries⟩ := congrArg Context.mk hroot
  rw [hcontext, setup.hosts_bindBundled, run_eq_of_rootNames hnamed hnames, ← hplain]
  exact HostTable.run_append hclosed.hosts hclosed.root e _

/-- **An evaluation depends only on the root names that the expression mentions**, if each of its paths
starts with a name or a call, as in every expression that can be read.  From two maps with the same
values under these names it comes to the same value or error and leaves the host objects in the same
state, whatever they are, those that write down their calls included.  Binding the bundled objects
changes nothing for an expression that mentions neither of their names. -/
theorem depends_on_rootNames :
    (∀ (W : Type) (hosts : HostInterface W) (entries entries' : List (String × Value)) (e : Expr),
      e.PathsNamed →
      (∀ name ∈ e.rootNames, Entries.find? name entries = Entries.find? name entries') →
      ∀ state, e.run hosts ⟨.map entries⟩ state = e.run hosts ⟨.map entries'⟩ state) ∧
    (∀ (parser : Parser) (e : Expr), parser.expression.1 = .ok e ∨ parser.input.1 = .ok e →
      e.PathsNamed) ∧
    ∀ (σ : Type) (setup : Setup σ) (state : σ) (entries : List (String × Value)) (e : Expr),
      setup.Closed → setup.context.root = .map entries → e.PathsNamed →
      "String" ∉ e.rootNames → "Array" ∉ e.rootNames →
      e.run HostTable.interface (setup.bindBundled state).context (setup.bindBundled state).hosts =
        ((e.run HostTable.interface setup.context setup.hosts).1,
          ⟨(e.run HostTable.interface setup.context setup.hosts).2.objects ++
            [⟨TextHost.descriptor, state⟩, ⟨ListHost.descriptor, state⟩]⟩) := by
  refine ⟨fun W hosts entries entries' e hnamed hnames state => ?_, fun parser e h => ?_,
    fun σ setup state entries e hclosed hroot hnamed hString hArray => ?_⟩
  · exact run_eq_of_rootNames hnamed hnames state
  · rcases h with h | h
    · obtain ⟨rest, hrest⟩ := Parser.exists_of_run h
      obtain ⟨_, _, hspells, _⟩ := (Parse.levels_sound maxNesting).1 _ _ _ hrest
      exact hspells.pathsNamed
    · obtain ⟨rest, hrest⟩ := Parser.exists_of_run h
      exact (Parse.input_sound hrest).1.pathsNamed
  · exact run_bindBundled hclosed hroot hnamed hString hArray state

/-- A path that starts with a computed key mentions no name, but it reads the one that its key comes to,
and it reads the bundled objects.  An empty path is the whole root. -/
theorem depends_on_rootNames_not_named :
    (path [.key (.text "0")]).rootNames = [] ∧
    (path [.key (.text "0")]).run (HostTable.interface (σ := Unit)) ⟨.map [("0", .text "zero")]⟩ ⟨[]⟩ =
      (.ok (.text "zero"), ⟨[]⟩) ∧
    (path [.key (.text "0")]).run (HostTable.interface (σ := Unit)) .empty ⟨[]⟩ =
      (.ok .null, ⟨[]⟩) ∧
    (path [.key (.text "String")]).rootNames = [] ∧
    (path [.key (.text "String")]).run (HostTable.interface (σ := Unit)) .empty ⟨[]⟩ =
      (.ok .null, ⟨[]⟩) ∧
    (path [.key (.text "String")]).run HostTable.interface
        (Setup.bindBundled () ⟨.empty, ⟨[]⟩⟩).context (Setup.bindBundled () ⟨.empty, ⟨[]⟩⟩).hosts =
      (.ok (.host ⟨0, "String"⟩), ⟨[⟨TextHost.descriptor, ()⟩, ⟨ListHost.descriptor, ()⟩]⟩) ∧
    (path []).rootNames = [] ∧
    (path []).run (HostTable.interface (σ := Unit)) ⟨.map [("0", .text "zero")]⟩ ⟨[]⟩ =
      (.ok (.map [("0", .text "zero")]), ⟨[]⟩) ∧
    (path []).run (HostTable.interface (σ := Unit)) .empty ⟨[]⟩ = (.ok (.map []), ⟨[]⟩) := by
  refine ⟨?_, rfl, rfl, ?_, rfl, rfl, ?_, rfl, rfl⟩
  · simp [rootNames, paths_eq, steps?, parts, Segment.args, leadingName?]
  · simp [rootNames, paths_eq, steps?, parts, Segment.args, leadingName?]
  · simp [rootNames, paths_eq, steps?, parts, leadingName?]

/-- A context with two names and a text object. -/
def namesSetup : Setup Unit :=
  Setup.bindHost "words" ⟨TextHost.descriptor, ()⟩
    ⟨⟨.map [("names", .list [.text "ada"]), ("index", .text "0")]⟩, {}⟩

/-- `names[index]` mentions `names` and `index`: neither another name nor the bundled objects matter
to it. -/
theorem depends_on_rootNames_offset :
    (path [.name "names", .key (path [.name "index"])]).PathsNamed ∧
    (path [.name "names", .key (path [.name "index"])]).rootNames = ["names", "index"] ∧
    (∀ state, (path [.name "names", .key (path [.name "index"])]).run freezing
        ⟨.map [("names", .host ⟨0, "account"⟩), ("index", .text "owner")]⟩ state =
      (path [.name "names", .key (path [.name "index"])]).run freezing
        ⟨.map [("index", .text "owner"), ("other", .null), ("names", .host ⟨0, "account"⟩)]⟩
        state) ∧
    namesSetup.Closed ∧
    (path [.name "names", .key (path [.name "index"])]).run HostTable.interface
        (namesSetup.bindBundled ()).context (namesSetup.bindBundled ()).hosts =
      (.ok (.text "ada"), ⟨[⟨TextHost.descriptor, ()⟩, ⟨TextHost.descriptor, ()⟩,
        ⟨ListHost.descriptor, ()⟩]⟩) := by
  obtain ⟨hagree, hread, hbundled⟩ := depends_on_rootNames
  have hnamed : (path [.name "names", .key (path [.name "index"])]).PathsNamed :=
    hread ⟨[⟨.identifier "names", 0⟩, ⟨.openBracket, 5⟩, ⟨.identifier "index", 6⟩,
      ⟨.closeBracket, 11⟩, ⟨.eof, 12⟩]⟩ _ (.inr rfl)
  have hnames : (path [.name "names", .key (path [.name "index"])]).rootNames =
      ["names", "index"] := by
    simp [rootNames, paths_eq, steps?, parts, Segment.args, leadingName?]
  have hplain : Setup.Closed (σ := Unit)
      ⟨⟨.map [("names", .list [.text "ada"]), ("index", .text "0")]⟩, {}⟩ :=
    ⟨Value.within_of_refs_eq_nil (by simp [Value.refs]),
      fun object hobject => absurd hobject List.not_mem_nil⟩
  have hclosed : namesSetup.Closed := hplain.bindHost "words" TextHost.descriptor_within
  refine ⟨hnamed, hnames, hagree _ _ _ _ _ hnamed ?_, hclosed,
    hbundled _ namesSetup () _ _ hclosed rfl hnamed ?_ ?_⟩
  · rw [hnames, List.forall_mem_cons, List.forall_mem_singleton]
    exact ⟨rfl, rfl⟩
  · rw [hnames]
    decide
  · rw [hnames]
    decide

end Expr

end HostExpr
