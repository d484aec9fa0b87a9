import Mathlib.Data.Prod.Lex
import ComponentAudit.Proofs.Naming

/-!
# The order of issues

The issues of a report stand in one order, whatever the number of workers: file by file as the walk comes to the files, in a
file rule by rule, the rules on syntax before those on text, and for a rule line by line. Each of these ascends: the walk
comes by the names (`Walker.pairwise_visited`), the rules take their turns (`Registry.pairwise_inTurn`), and a rule finds no
two issues in one line (`Rule.ascending_calls`). So the issues of a report ascend by their ranks, and no two of them are of
the same rule in the same line of the same file (`ScanPlan.report_ascending`).
-/

namespace ComponentAudit

open Collector Text FileTree

/-! ## Ranks -/

/-- The bytes of a component as a path is written. -/
def Path.Component.bytes : Path.Component → List UInt8
  | root => [slash]
  | here => [dot]
  | parent => [dot, dot]
  | name bytes => bytes

/-- The bytes of a path, component by component. -/
def Path.componentBytes (p : Path) : List (List UInt8) :=
  p.components.map Component.bytes

/-- When the rules of a kind look at a file: those on syntax first, then those on text, then those on compilation. -/
def RuleKind.turn : RuleKind → Nat
  | .syntaxCheck => 0
  | .pattern _ | .importRequirement _ _ => 1
  | .compilation => 2

namespace Registry

variable {g : Registry} {r : Rule}

/-- When the rule of an identifier looks at a file, and which rule it is. -/
def place (g : Registry) (id : String) : Nat ×ₗ Nat :=
  toLex ((g.get? id).elim 0 (·.kind.turn), g.ids.idxOf id)

/-- What the issues of a report are put in order by: the file, when the rule looks at it, which rule it is, and the line. -/
def rank (g : Registry) (i : Issue) : List (List UInt8) ×ₗ (Nat ×ₗ Nat) ×ₗ Nat :=
  toLex (i.location.file.componentBytes, toLex (g.place i.ruleId, i.location.line))

theorem not_rank_lt (g : Registry) (i : Issue) : ¬g.rank i < g.rank i := by
  rw [rank, Prod.Lex.toLex_lt_toLex]
  rintro (hfile | ⟨-, hplace⟩)
  · exact List.lt_irrefl _ hfile
  · exact lt_irrefl _ hplace

theorem rank_lt_of_file {i j : Issue} (h : i.location.file.componentBytes < j.location.file.componentBytes) :
    g.rank i < g.rank j :=
  Prod.Lex.toLex_lt_toLex.2 (Or.inl h)

theorem rank_lt_of_place {i j : Issue} (hfile : i.location.file = j.location.file)
    (h : toLex (g.place i.ruleId, i.location.line) < toLex (g.place j.ruleId, j.location.line)) : g.rank i < g.rank j := by
  rw [rank, rank, hfile]
  exact Prod.Lex.toLex_lt_toLex.2 (Or.inr ⟨rfl, h⟩)

/-- The rules in the order in which they look at a file. -/
def inTurn (g : Registry) : List Rule :=
  (List.range 3).flatMap fun n => g.rules.filter fun r => r.kind.turn = n

theorem place_id (h : r ∈ g.rules) : g.place r.id = toLex (r.kind.turn, g.ids.idxOf r.id) := by
  rw [place, get?_eq_some_iff.2 ⟨h, rfl⟩]
  rfl

theorem mem_rules_of_mem_inTurn (h : r ∈ g.inTurn) : r ∈ g.rules := by
  obtain ⟨n, -, hr⟩ := List.mem_flatMap.1 h
  exact List.mem_of_mem_filter hr

/-- The rules of a registry ascend by their places among its identifiers. -/
theorem pairwise_idxOf (g : Registry) : g.rules.Pairwise fun r r' => g.ids.idxOf r.id < g.ids.idxOf r'.id := by
  have hdistinct : g.ids.Nodup := g.distinct
  have hids : g.ids.Pairwise fun id id' => g.ids.idxOf id < g.ids.idxOf id' := by
    rw [List.pairwise_iff_getElem]
    intro m n hm hn hlt
    rwa [hdistinct.idxOf_getElem m hm, hdistinct.idxOf_getElem n hn]
  rwa [ids, List.pairwise_map] at hids

/-- In their turns, the rules ascend by their places. -/
theorem pairwise_inTurn (g : Registry) : g.inTurn.Pairwise fun r r' => g.place r.id < g.place r'.id := by
  have hplace : ∀ {n r}, r ∈ g.rules.filter (fun r => r.kind.turn = n) → g.place r.id = toLex (n, g.ids.idxOf r.id) := by
    intro n r hr
    obtain ⟨hr, hturn⟩ := List.mem_filter.1 hr
    rw [place_id hr, of_decide_eq_true hturn]
  rw [inTurn, List.pairwise_flatMap]
  constructor
  · intro n _
    refine (g.pairwise_idxOf.filter _).imp_of_mem fun {r r'} hr hr' hlt => ?_
    rw [hplace hr, hplace hr', Prod.Lex.toLex_lt_toLex]
    exact Or.inr ⟨rfl, hlt⟩
  · refine List.pairwise_lt_range.imp fun {n n'} hlt r hr r' hr' => ?_
    rw [hplace hr, hplace hr', Prod.Lex.toLex_lt_toLex]
    exact Or.inl hlt

end Registry

/-! ## The issues of a file -/

/-- Where there is no second one, any two stand in any relation. -/
theorem pairwise_of_length_le_one {α : Type} {l : List α} {rel : α → α → Prop} (h : l.length ≤ 1) : l.Pairwise rel := by
  match l, h with
  | [], _ => exact .nil
  | [x], _ => exact List.pairwise_singleton rel x

namespace Rule

variable (r : Rule) (f : SourceFile) (outcome : Except SyntaxFailure Unit)

/-- A rule that follows the outcome of the syntax check says one thing about a file that it looks at. -/
theorem length_calls_le (h : r.kind.regex? = none) : (r.calls f outcome).length ≤ 1 := by
  unfold calls
  split
  · split
    · exact Nat.le_refl 1
    · exact Nat.le_refl 1
    · rename_i hkind
      rw [hkind] at h
      cases h
    · rename_i hkind
      rw [hkind] at h
      cases h
  · exact Nat.zero_le 1

/-- The issues of a rule in a file are in different lines, in the order of the lines. -/
theorem ascending_calls :
    ((r.calls f outcome).filterMap Call.issue?).Pairwise fun i j => i.location.line < j.location.line := by
  have hplaces := r.places_calls f outcome
  have hnone : (r.calls f outcome).filterMap Call.issue? = [] →
      ((r.calls f outcome).filterMap Call.issue?).Pairwise fun i j => i.location.line < j.location.line :=
    fun h => h ▸ .nil
  rw [Places] at hplaces
  cases hk : r.kind with
  | syntaxCheck | compilation =>
    have hlength := r.length_calls_le f outcome (by rw [hk]; rfl)
    exact pairwise_of_length_le_one ((List.length_filterMap_le _ _).trans hlength)
  | pattern pattern =>
    simp only [hk] at hplaces
    split at hplaces
    · split at hplaces
      · exact hplaces.ascending
      · exact hnone hplaces
    · exact hnone hplaces
  | importRequirement pattern declaration =>
    simp only [hk] at hplaces
    split at hplaces
    · split at hplaces
      · exact pairwise_of_length_le_one hplaces.atMostOne
      · exact hnone hplaces
    · exact hnone hplaces

end Rule

/-- What is made of some of the rules, rule by rule. -/
theorem flatMap_filter_rules {α : Type} (rules : List Rule) (keep : Rule → Bool) (make : Rule → List α) :
    (rules.filter keep).flatMap make = rules.flatMap fun r => if keep r then make r else [] := by
  induction rules with
  | nil => rfl
  | cons r rest ih =>
    rw [List.flatMap_cons, ← ih, List.filter_cons]
    split
    · rw [List.flatMap_cons]
    · rfl

namespace Checker

/-- The rules have their say in turn. -/
theorem callsFor_eq (c : Checker) (f : SourceFile) (outcome : Except SyntaxFailure Unit) :
    c.callsFor f outcome = c.registry.inTurn.flatMap fun r => r.calls f outcome := by
  have hturns : c.registry.inTurn = (c.registry.rules.filter fun r => r.kind.turn = 0) ++
      ((c.registry.rules.filter fun r => r.kind.turn = 1) ++ c.registry.rules.filter fun r => r.kind.turn = 2) := by
    simp [Registry.inTurn, List.range_succ]
  rw [hturns, List.flatMap_append, List.flatMap_append, callsFor, matchers_eq, Matcher.allCalls, List.append_assoc]
  simp only [rulesOf, Registry.applicable, List.filter_filter, List.map_eq_flatMap, List.filterMap_eq_flatMap_toList,
    List.flatMap_assoc, flatMap_filter_rules]
  -- Each of the three parts takes from a rule what the rule says, or nothing.
  congr 1
  · refine List.flatMap_congr fun r _ => ?_
    cases hk : r.kind <;> simp [Rule.calls, RuleKind.turn, hk]
  · congr 1
    · refine List.flatMap_congr fun r _ => ?_
      cases hk : r.kind with
      | syntaxCheck | compilation => simp [Matcher.ofRule?, RuleKind.regex?, RuleKind.turn, hk]
      | pattern regex | importRequirement regex declaration =>
        have htext : r.kind.regex?.isSome = true := by rw [hk]; rfl
        rw [← Rule.calls_of_text htext f outcome]
        rfl
    · refine List.flatMap_congr fun r _ => ?_
      cases hk : r.kind <;> simp [Rule.calls, RuleKind.turn, hk]

/-- The issues of a check of bytes are of rules that are not on compilation, and they ascend by the places of the rules and
the lines. -/
theorem ascending_checkBytes (c : Checker) (root path : Path) (kind : FileKind) (bytes : List UInt8) :
    (∀ i ∈ (c.checkBytes root path kind bytes).issues,
      ∃ r ∈ c.registry.rules, r.id = i.ruleId ∧ r.kind ≠ .compilation) ∧
    (c.checkBytes root path kind bytes).issues.Pairwise fun i j =>
      toLex (c.registry.place i.ruleId, i.location.line) < toLex (c.registry.place j.ruleId, j.location.line) := by
  have hissues : (c.checkBytes root path kind bytes).issues = c.registry.inTurn.flatMap fun r =>
      (r.calls (.ofPath path (Utf8.decodeLossy bytes) root kind) (syntaxOutcome c.parser kind bytes)).filterMap
        Call.issue? := by
    rw [checkBytes_eq, issues_runAll (plain_callsFor c _ _), callsFor_eq, List.filterMap_flatMap]
    rfl
  have hrule : ∀ {r f outcome i}, i ∈ (Rule.calls r f outcome).filterMap Call.issue? →
      i.ruleId = r.id ∧ r.kind ≠ .compilation := by
    intro r f outcome i hi
    rcases Rule.calls_cases (mem_filterMap_issue?.1 hi) with hcall | ⟨hcall, -⟩ | ⟨j, hcall, hid, hkind⟩
    · cases hcall
    · cases hcall
    · cases hcall
      exact ⟨hid, hkind⟩
  rw [hissues]
  constructor
  · intro i hi
    obtain ⟨r, hr, hcall⟩ := List.mem_flatMap.1 hi
    obtain ⟨hid, hkind⟩ := hrule hcall
    exact ⟨r, Registry.mem_rules_of_mem_inTurn hr, hid.symm, hkind⟩
  · rw [List.pairwise_flatMap]
    constructor
    · intro r _
      refine (r.ascending_calls _ _).imp_of_mem fun {i j} hi hj hlt => ?_
      rw [(hrule hi).1, (hrule hj).1, Prod.Lex.toLex_lt_toLex]
      exact Or.inr ⟨rfl, hlt⟩
    · refine c.registry.pairwise_inTurn.imp fun {r r'} hlt i hi j hj => ?_
      rw [(hrule hi).1, (hrule hj).1, Prod.Lex.toLex_lt_toLex]
      exact Or.inl hlt

end Checker

/-! ## The files of a walk -/

/-- The components of the path of some names are the names. -/
theorem Path.componentBytes_ofParts {names : List EntryName} (hne : names ≠ []) (h : ∀ name ∈ names, ValidName name) :
    (ofParts names).componentBytes = names := by
  obtain ⟨name, rest, rfl⟩ := List.exists_cons_of_ne_nil hne
  have hparts : (ofParts (name :: rest)).parts = name :: rest :=
    split_join hne fun part hpart => (h part hpart).noSlash
  have hname := h name (List.mem_cons_self ..)
  rw [componentBytes, components_of_opening (opening_other hparts hname.nonempty hname.notHere), filterMap_component? h,
    Option.toList_none, List.nil_append, List.map_map]
  exact List.map_id _

/-- What names lead to in a tree as a disk holds it is such a tree. -/
theorem FileTree.Named.at? {t s : FileTree} {names : List EntryName} (ht : t.Named) (h : t.at? names = some s) : s.Named := by
  induction names generalizing t with
  | nil => exact Option.some.inj h ▸ ht
  | cons first rest ih =>
    obtain ⟨u, hentry, hrest⟩ := Option.bind_eq_some_iff.1 h
    have hu := mem_entries_of_entry? hentry
    cases ht with
    | directory hdistinct hnamed hbelow => exact ih (hbelow _ hu) hrest
    | _ => exact absurd hu List.not_mem_nil

/-- A walk from what is no directory comes by one path at most. -/
theorem Walker.length_walk_le {w : Walker} {files t : FileTree} {top : List EntryName} (hroot : files.resolve w.root = .ok (top, t))
    (ht : ∀ entries, t ≠ directory entries) : (w.walk files).length ≤ 1 := by
  have hlisting : t.listing (w.skips files top) [] = [] := by
    cases t with
    | directory entries => exact absurd rfl (ht entries)
    | _ => rw [listing]
  have hwalk : w.walk files = (w.visit? w.root t).toList := by
    rw [walk, hroot]
    show _ ++ w.below files top t = _
    rw [below, hlisting, List.filterMap_nil, List.append_nil]
  rw [hwalk]
  exact Option.length_toList_le

/-- A walk comes by paths that ascend by the bytes of their components below the root. -/
theorem Walker.pairwise_visited (w : Walker) {files : FileTree} (h : files.Named) :
    (w.walk files).Pairwise fun e e' =>
      ((visited e).relativeTo w.root).componentBytes < ((visited e').relativeTo w.root).componentBytes := by
  cases hroot : files.resolve w.root with
  | error e =>
    rw [walk, hroot]
    exact List.pairwise_singleton _ _
  | ok place =>
    obtain ⟨top, t⟩ := place
    by_cases hdirectory : ∃ entries, t = directory entries
    · obtain ⟨entries, rfl⟩ := hdirectory
      obtain ⟨-, -, hat⟩ := of_resolve hroot
      have hnamed : (directory entries).Named := h.at? hat
      rw [walk_eq_below w hroot, below, List.pairwise_filterMap]
      refine hnamed.pairwise_listing.imp_of_mem ?_
      rintro ⟨names, u⟩ ⟨names', u'⟩ hlisted hlisted' hlt entry hvisit entry' hvisit'
      obtain ⟨hne, hvalid⟩ := names_of_mem_listing hnamed hlisted
      obtain ⟨hne', hvalid'⟩ := names_of_mem_listing hnamed hlisted'
      rw [visited_of_visit? hvisit, visited_of_visit? hvisit', pathOf_eq_div w hne hvalid, pathOf_eq_div w hne' hvalid',
        Path.relativeTo_div w.root hne hvalid, Path.relativeTo_div w.root hne' hvalid',
        Path.componentBytes_ofParts hne hvalid, Path.componentBytes_ofParts hne' hvalid']
      exact hlt
    · exact pairwise_of_length_le_one (length_walk_le hroot fun entries ht => hdirectory ⟨entries, ht⟩)

/-! ## The issues of a report -/

/-- The issues of a scan of files that ascend by the bytes of their paths ascend by their ranks. -/
theorem Scan.pairwise_issues {s : Scan} {now : Timestamp} {looked : Looked}
    (h : looked.Pairwise fun file file' =>
      (file.1.path.relativeTo s.root).componentBytes < (file'.1.path.relativeTo s.root).componentBytes) :
    (s.reportOn now looked).issues.Pairwise fun i j => s.registry.rank i < s.registry.rank j := by
  have hfile : ∀ {file : Candidate × Except FileError (List UInt8)} {i : Issue}, i ∈ s.issuesIn file →
      i.location.file = file.1.path.relativeTo s.root := by
    intro file i hi
    obtain ⟨-, -, -, -, hlocation⟩ := rule_of_mem_issuesIn hi
    exact hlocation
  rw [issues_reportOn, List.pairwise_flatMap]
  constructor
  · rintro ⟨c, read⟩ -
    cases read with
    | error e => exact .nil
    | ok bytes =>
      obtain ⟨-, hascending⟩ := s.checker.ascending_checkBytes s.root c.path c.kind bytes
      refine hascending.imp_of_mem fun {i j} hi hj hlt => ?_
      have hsame : ∀ {i}, i ∈ s.issuesIn (c, .ok bytes) → i.location.file = c.path.relativeTo s.root := hfile
      exact Registry.rank_lt_of_place ((hsame hi).trans (hsame hj).symm) hlt
  · refine h.imp fun {file file'} hlt i hi j hj => Registry.rank_lt_of_file ?_
    rwa [hfile hi, hfile hj]

namespace ScanPlan

/-- The issues of a report on any tree, with any rules and any number of workers, are of rules of the plan, none of them on
compilation, and they ascend by their ranks. So no two issues are of the same rule in the same line of the same file. -/
theorem report_ascending (p : ScanPlan) {here : Path} {files : FileTree} {now : Timestamp} {order : Nat → List Nat}
    {r : Report} (h : EachOnce order) (hfiles : files.Named) (hr : p.report here files now order = .ok r) :
    (∀ i ∈ r.issues, ∃ rule ∈ p.registry.rules, rule.id = i.ruleId ∧ rule.kind ≠ .compilation) ∧
    (r.issues.Pairwise fun i j => p.registry.rank i < p.registry.rank j) ∧
    (r.issues.map fun i => (i.ruleId, i.location.file, i.location.line)).Nodup := by
  obtain ⟨s, candidates, hprepare, hwalk, rfl⟩ := reportOn_of_report h hr
  obtain ⟨hroot, hwalker, hchecker⟩ := of_prepare hprepare
  have hregistry : s.registry = p.registry := congrArg Checker.registry hchecker
  have hascending := s.walker.pairwise_visited hfiles
  rw [hwalk, List.pairwise_map, hwalker, ← hroot] at hascending
  have hissues : (s.reportOn now (candidates.map fun c => (c, files.read c.path))).issues.Pairwise fun i j =>
      s.registry.rank i < s.registry.rank j := Scan.pairwise_issues (List.pairwise_map.2 hascending)
  rw [← hregistry]
  refine ⟨fun i hi => ?_, hissues, ?_⟩
  · obtain ⟨c, -, bytes, -, hissue, -⟩ := Scan.exists_candidate_of_mem_issues hi
    exact (s.checker.ascending_checkBytes s.root c.path c.kind bytes).1 i hissue
  · rw [List.Nodup, List.pairwise_map]
    refine hissues.imp fun {i j} hlt hsame => ?_
    have hrank : s.registry.rank i = s.registry.rank j := by
      obtain ⟨hid, hplace⟩ := Prod.mk.inj hsame
      obtain ⟨hfile, hline⟩ := Prod.mk.inj hplace
      rw [Registry.rank, Registry.rank, hid, hfile, hline]
    exact s.registry.not_rank_lt j (hrank ▸ hlt)

/-- Two source files: of their paths the one is smaller character by character, the other name by name. -/
def dashedTree : FileTree :=
  .directory [("d", .directory
    [("a-b.go", .file [0x7d]), ("a", .directory [("z.go", .file [0x7d])])])]

theorem named_dashedTree : dashedTree.Named := by
  have ha : (directory [("z.go", .file [0x7d])]).Named :=
    .directory (by decide) (by decide) (List.forall_mem_singleton.2 (.file _))
  have hd : (directory [("a-b.go", .file [0x7d]), ("a", directory [("z.go", .file [0x7d])])]).Named := by
    refine .directory (by decide) (by decide) ?_
    simp only [List.forall_mem_cons]
    exact ⟨.file _, ha, nofun⟩
  exact .directory (by decide) (by decide) (List.forall_mem_singleton.2 hd)

/-- A scan of them that passes over no directory, with a parser that takes no source file. -/
def dashedPlan : ScanPlan :=
  { syntaxPlan ⟨"d"⟩ with excludedDirs := some [] }

/-- Both files have an issue, and the one in the directory comes first. -/
theorem report_ascending_dashed : EachOnce List.range ∧ dashedTree.Named ∧
    ∃ r, dashedPlan.report ⟨"/"⟩ dashedTree default = .ok r ∧
      (r.issues.map fun i => i.location.file) = [⟨"a/z.go"⟩, ⟨"a-b.go"⟩] ∧
      r.issues.Pairwise fun i j => dashedPlan.registry.rank i < dashedPlan.registry.rank j := by
  obtain ⟨s, hprepare, hwalker⟩ : ∃ s, dashedPlan.prepare ⟨"/"⟩ = .ok s ∧
      s.walker = { root := dashedPlan.absoluteRoot ⟨"/"⟩, excludedDirs := [] } := ⟨_, rfl, rfl⟩
  obtain ⟨hroot, -, hchecker⟩ := of_prepare hprepare
  have hplace : dashedPlan.absoluteRoot ⟨"/"⟩ = ⟨"/d"⟩ := by decide
  rw [hplace] at hroot hwalker
  have hwalk : s.walker.walk dashedTree = [⟨⟨"/d/a/z.go"⟩, .go⟩, ⟨⟨"/d/a-b.go"⟩, .go⟩].map .ok := by
    rw [hwalker]
    cbv
  have hread : dashedTree.read ⟨"/d/a/z.go"⟩ = .ok [0x7d] ∧ dashedTree.read ⟨"/d/a-b.go"⟩ = .ok [0x7d] := by
    constructor <;> cbv
  have hreport := report_of_walk default eachOnce_range hprepare hwalk
  refine ⟨eachOnce_range, named_dashedTree, _, hreport, ?_, (report_ascending _ eachOnce_range named_dashedTree hreport).2.1⟩
  rw [List.map_cons, List.map_singleton, hread.1, hread.2, Scan.issues_reportOn, List.flatMap_cons, List.flatMap_singleton]
  simp only [Scan.issuesIn, hroot, hchecker]
  cbv

end ScanPlan

end ComponentAudit
