import ComponentAudit.CommandLine.Presentation
import ComponentAudit.Proofs.Following
import ComponentAudit.Proofs.Passing
import ComponentAudit.Proofs.Walking

/-!
# Issues name the files that they are in

An issue tells its file by the path below the root of the scan. For a root that is a directory, that path leads from the root
back to the file that was checked, and no two files share it (`ScanPlan.report_names`), so that an issue is drawn over the
text in which it was found. A root that is a file itself has no path below itself: its issues name no file
(`ScanPlan.report_unnamed`).
-/

namespace ComponentAudit

open Text FileTree

/-- A path is what a relative path, which is not empty, names from a base. -/
structure Path.Names (base relative path : Path) : Prop where
  nonempty : relative.bytes ≠ []
  isRelative : relative.isAbsolute = false
  rejoined : base / relative = path

/-- Some names below a base are named by what is left of their path. -/
theorem Path.names_div (base : Path) {names : List EntryName} (hne : names ≠ []) (h : ∀ name ∈ names, ValidName name) :
    base.Names ((base / ofParts names).relativeTo base) (base / ofParts names) := by
  rw [relativeTo_div base hne h]
  refine ⟨fun hempty => ?_, isAbsolute_ofParts hne h, rfl⟩
  have hjoin : join slash names = [] := hempty
  rw [← split_join hne fun name hname => (h name hname).noSlash, hjoin] at h
  exact absurd rfl (h [] (List.mem_singleton_self _)).nonempty

namespace Walker

variable {w : Walker} {files : FileTree} {top names : List EntryName} {entries : List (EntryName × FileTree)}

/-! ## The paths of a walk -/

/-- The path that an entry of a walk is about. -/
def visited : Except WalkError Candidate → Path
  | .ok c => c.path
  | .error e => e.path

theorem visited_of_visit? {path : Path} {t : FileTree} {entry : Except WalkError Candidate}
    (h : w.visit? path t = some entry) : visited entry = path := by
  have hcandidate : ∀ c, candidate? path t = some c → c.path = path := by
    intro c hc
    unfold candidate? at hc
    split at hc
    · obtain ⟨kind, -, rfl⟩ := Option.map_eq_some_iff.1 hc
      rfl
    · cases hc
  unfold visit? at h
  split at h
  · cases h
    rfl
  · obtain ⟨c, hc, rfl⟩ := Option.map_eq_some_iff.1 h
    exact hcandidate c hc

/-- A walk from a directory visits what is below it. -/
theorem walk_eq_below (w : Walker) (hroot : files.resolve w.root = .ok (top, .directory entries)) :
    w.walk files = w.below files top (.directory entries) := by
  rw [walk, hroot]
  rfl

/-- A walk from a file visits nothing else. -/
theorem walk_eq_visit {bytes : List UInt8} (hroot : files.resolve w.root = .ok (top, .file bytes)) :
    w.walk files = (w.visit? w.root (.file bytes)).toList := by
  have hbelow : w.below files top (.file bytes) = [] := by
    rw [below, listing, List.filterMap_nil]
  rw [walk, hroot]
  exact (congrArg _ hbelow).trans (List.append_nil _)

/-- The names in a listing of what is below a directory. -/
theorem names_of_mem_listing {skip : List EntryName → FileTree → Bool} {t u : FileTree} (ht : t.Named)
    (h : (names, u) ∈ t.listing skip []) : names ≠ [] ∧ ∀ name ∈ names, ValidName name := by
  obtain ⟨rest, hpath, hrest⟩ := ht.mem_listing.1 h
  rw [List.nil_append] at hpath
  subst hpath
  exact ⟨hrest.nonempty, ht.of_at? hrest.found⟩

/-- What a walk from a directory comes by is named from the root. -/
theorem names_visited (hroot : files.resolve w.root = .ok (top, .directory entries)) (hnamed : (directory entries).Named)
    {entry : Except WalkError Candidate} (h : entry ∈ w.walk files) :
    w.root.Names ((visited entry).relativeTo w.root) (visited entry) := by
  rw [walk_eq_below w hroot, below, List.mem_filterMap] at h
  obtain ⟨⟨names, u⟩, hlisted, hvisit⟩ := h
  obtain ⟨hne, hvalid⟩ := names_of_mem_listing hnamed hlisted
  rw [visited_of_visit? hvisit, pathOf_eq_div w hne hvalid]
  exact w.root.names_div hne hvalid

/-- A walk from a directory comes by each path once. -/
theorem nodup_visited (hroot : files.resolve w.root = .ok (top, .directory entries)) (hnamed : (directory entries).Named) :
    ((w.walk files).map visited).Nodup := by
  rw [walk_eq_below w hroot, below, List.Nodup, List.pairwise_map, List.pairwise_filterMap]
  refine hnamed.pairwise_listing.imp_of_mem ?_
  rintro ⟨names, u⟩ ⟨names', u'⟩ h h' hlt entry hvisit entry' hvisit' hsame
  obtain ⟨hne, hvalid⟩ := names_of_mem_listing hnamed h
  obtain ⟨hne', hvalid'⟩ := names_of_mem_listing hnamed h'
  rw [visited_of_visit? hvisit, visited_of_visit? hvisit', pathOf_eq_div w hne hvalid, pathOf_eq_div w hne' hvalid'] at hsame
  exact hlt.ne (names_inj hne hne' hvalid hvalid' hsame)

end Walker

/-- An issue of a report is one that the check of a candidate found, and tells the file as seen from the root. -/
theorem Scan.exists_candidate_of_mem_issues {s : Scan} {now : Timestamp} {files : FileTree} {candidates : List Candidate}
    {i : Issue} (h : i ∈ (s.reportOn now (candidates.map fun c => (c, files.read c.path))).issues) :
    ∃ c ∈ candidates, ∃ bytes, files.read c.path = .ok bytes ∧
      i ∈ (s.checker.checkBytes s.root c.path c.kind bytes).issues ∧ i.location.file = c.path.relativeTo s.root := by
  rw [issues_reportOn, List.mem_flatMap] at h
  obtain ⟨file, hfile, hissue⟩ := h
  obtain ⟨c, hc, rfl⟩ := List.mem_map.1 hfile
  obtain ⟨-, -, -, -, hlocation⟩ := rule_of_mem_issuesIn hissue
  cases hread : files.read c.path with
  | error e =>
    rw [hread] at hissue
    exact absurd hissue List.not_mem_nil
  | ok bytes =>
    rw [hread] at hissue
    exact ⟨c, hc, bytes, hread, hissue, hlocation⟩

/-- An issue is drawn over what can be read at its path, if that is text. -/
theorem CommandLine.drawn?_of_read {files : FileTree} {root : Path} {i : Issue} {bytes : List UInt8}
    (h : files.read (root / i.location.file) = .ok bytes) :
    drawn? files root i = (Utf8.decode? bytes).map fun text => printed (Diagnostic.ofIssue i text).drawing := by
  unfold drawn? readText
  rw [h]
  dsimp only [bind, Except.bind]
  cases Utf8.decode? bytes with
  | none => rfl
  | some text => rfl

namespace ScanPlan

/-! ## Reports on directories -/

open CommandLine

/-- In a report on a directory, an issue tells its file by a path below the directory that leads back to the file whose check
found the issue, and it is drawn over the text of that file, if it is one. No two files are told by the same path. -/
theorem report_names (p : ScanPlan) {here : Path} {files : FileTree} {now : Timestamp} {order : Nat → List Nat} {r : Report}
    {top : List EntryName} {entries : List (EntryName × FileTree)} (h : EachOnce order)
    (hr : p.report here files now order = .ok r)
    (hroot : files.resolve (p.absoluteRoot here) = .ok (top, .directory entries)) (hnamed : (directory entries).Named) :
    ∃ (s : Scan) (candidates : List Candidate), p.prepare here = .ok s ∧ s.walker.walk files = candidates.map .ok ∧
      r.root = p.absoluteRoot here ∧
      (∀ i ∈ r.issues, ∃ c ∈ candidates, ∃ bytes, files.read c.path = .ok bytes ∧
        i ∈ (s.checker.checkBytes r.root c.path c.kind bytes).issues ∧
        i.location.file = c.path.relativeTo r.root ∧ r.root.Names i.location.file c.path ∧
        drawn? files r.root i = (Utf8.decode? bytes).map fun text => printed (Diagnostic.ofIssue i text).drawing) ∧
      (candidates.map fun c => c.path.relativeTo r.root).Nodup := by
  obtain ⟨s, candidates, hprepare, hwalk, rfl⟩ := reportOn_of_report h hr
  obtain ⟨hscan, hwalker, -⟩ := of_prepare hprepare
  have hreport : (s.reportOn now (candidates.map fun c => (c, files.read c.path))).root = s.root := rfl
  rw [hreport]
  have hplace : files.resolve s.walker.root = .ok (top, .directory entries) := hwalker ▸ hroot
  have hnames : ∀ c ∈ candidates, s.root.Names (c.path.relativeTo s.root) c.path := by
    intro c hc
    have hentry : Except.ok c ∈ s.walker.walk files := hwalk ▸ List.mem_map_of_mem hc
    have hvisited := Walker.names_visited hplace hnamed hentry
    rwa [hwalker, ← hscan] at hvisited
  refine ⟨s, candidates, hprepare, hwalk, hscan, ?_, ?_⟩
  · intro i hi
    obtain ⟨c, hc, bytes, hread, hissue, hlocation⟩ := Scan.exists_candidate_of_mem_issues hi
    have hnames_i : s.root.Names i.location.file c.path := hlocation ▸ hnames c hc
    exact ⟨c, hc, bytes, hread, hissue, hlocation, hnames_i, drawn?_of_read (hnames_i.rejoined ▸ hread)⟩
  · have hpaths : (candidates.map Candidate.path).Nodup := by
      have hvisited := Walker.nodup_visited hplace hnamed
      rwa [hwalk, List.map_map] at hvisited
    have hrejoined : (candidates.map fun c => c.path.relativeTo s.root).map (s.root / ·) = candidates.map Candidate.path := by
      rw [List.map_map]
      exact List.map_congr_left fun c hc => (hnames c hc).rejoined
    exact .of_map _ (hrejoined ▸ hpaths)

/-- A scan with the rule on the syntax of source files, and a parser that takes none. -/
def syntaxPlan (root : Path) : ScanPlan where
  root := some root
  registry := Rules.registry.retain ["valid-structured-syntax"]
  parser := .refuseAll ⟨1, 1, "no"⟩

/-- What is in a directory: a source file. -/
def unbalancedEntries : List (EntryName × FileTree) :=
  [("a.go", .file [0x7d])]

def unbalancedTree : FileTree :=
  .directory [("d", .directory unbalancedEntries)]

theorem read_unbalanced : unbalancedTree.read ⟨"/d/a.go"⟩ = .ok [0x7d] := by
  cbv

/-- The one rule fails on the one file. -/
theorem fails_unbalanced :
    Rules.goSyntax.Fails .go (syntaxOutcome (.refuseAll ⟨1, 1, "no"⟩) .go [0x7d]) (Utf8.decodeLossy [0x7d]) := by
  have houtcome : syntaxOutcome (.refuseAll ⟨1, 1, "no"⟩) .go [0x7d] = .error (.parse ⟨1, 1, "no"⟩) := by cbv
  exact ⟨List.mem_singleton_self _, _, houtcome⟩

/-- A scan of a root from which the walk comes by the one file has an issue. -/
theorem exists_issue_unbalanced {root : Path}
    (hwalk : Walker.walk { root := (syntaxPlan root).absoluteRoot ⟨"/"⟩ } unbalancedTree = [⟨⟨"/d/a.go"⟩, .go⟩].map .ok) :
    ∃ r, (syntaxPlan root).report ⟨"/"⟩ unbalancedTree default = .ok r ∧ ∃ i, i ∈ r.issues := by
  obtain ⟨s, hprepare, hwalker, hchecker⟩ : ∃ s, (syntaxPlan root).prepare ⟨"/"⟩ = .ok s ∧
      s.walker = { root := (syntaxPlan root).absoluteRoot ⟨"/"⟩ } ∧
      s.checker = .ofRegistry (syntaxPlan root).registry (syntaxPlan root).parser := ⟨_, rfl, rfl, rfl⟩
  have hrules : s.registry.rules = (Rules.registry.retain ["valid-structured-syntax"]).rules :=
    congrArg (fun c : Checker => c.registry.rules) hchecker
  have hretained : (Rules.registry.retain ["valid-structured-syntax"]).rules = [Rules.goSyntax] := by decide
  refine ⟨_, report_of_walk default eachOnce_range hprepare (hwalker ▸ hwalk), ?_⟩
  have hrule : Rules.goSyntax ∈ s.registry.rules := by
    rw [hrules, hretained]
    exact List.mem_singleton_self _
  rw [List.map_singleton, read_unbalanced]
  exact Scan.exists_issue_of_fails (List.mem_singleton_self _) hrule (by decide) (hchecker ▸ fails_unbalanced)

/-- Below a directory, the file is told by its name. -/
theorem report_names_unbalanced :
    EachOnce List.range ∧
    unbalancedTree.resolve ((syntaxPlan ⟨"d"⟩).absoluteRoot ⟨"/"⟩) = .ok (["d"], .directory unbalancedEntries) ∧
    (directory unbalancedEntries).Named ∧
    ∃ r, (syntaxPlan ⟨"d"⟩).report ⟨"/"⟩ unbalancedTree default = .ok r ∧
      ∃ i ∈ r.issues, ∃ (c : Candidate) (bytes : List UInt8), unbalancedTree.read c.path = .ok bytes ∧
        r.root.Names i.location.file c.path ∧ drawn? unbalancedTree r.root i =
          (Utf8.decode? bytes).map fun text => printed (Diagnostic.ofIssue i text).drawing := by
  have hroot : (syntaxPlan ⟨"d"⟩).absoluteRoot ⟨"/"⟩ = ⟨"/d"⟩ := by decide
  have hplace : unbalancedTree.resolve ⟨"/d"⟩ = .ok (["d"], .directory unbalancedEntries) := by
    cbv
  have hnamed : (directory unbalancedEntries).Named :=
    .directory (by decide) (by decide) (List.forall_mem_singleton.2 (.file _))
  have hwalk : Walker.walk { root := ⟨"/d"⟩ } unbalancedTree = [⟨⟨"/d/a.go"⟩, .go⟩].map .ok := by
    cbv
  rw [← hroot] at hplace hwalk
  obtain ⟨r, hr, i, hi⟩ := exists_issue_unbalanced hwalk
  obtain ⟨s, candidates, -, -, -, hissues, -⟩ := report_names (syntaxPlan ⟨"d"⟩) eachOnce_range hr hplace hnamed
  obtain ⟨c, -, bytes, hread, -, -, hnames, hdrawn⟩ := hissues i hi
  exact ⟨eachOnce_range, hplace, hnamed, r, hr, i, hi, c, bytes, hread, hnames, hdrawn⟩

/-! ## Reports on files -/

/-- In a report on a file, an issue tells no file. The path to which that leads from the root is not that of the file, and
nothing can be read there, so that the issue is not drawn, although the file can be read. -/
theorem report_unnamed (p : ScanPlan) {here : Path} {now : Timestamp} {order : Nat → List Nat} {r : Report}
    {entries : List (EntryName × FileTree)} {names : List EntryName} {bytes : List UInt8} (h : EachOnce order)
    (hr : p.report here (directory entries) now order = .ok r)
    (hroot : (directory entries).resolve (p.absoluteRoot here) = .ok (names, .file bytes)) :
    (directory entries).read r.root = .ok bytes ∧
      ∀ i ∈ r.issues, i.location.file = ⟨[]⟩ ∧
        (directory entries).read (r.root / i.location.file) = .error .notDirectory ∧
        drawn? (directory entries) r.root i = none := by
  obtain ⟨s, candidates, hprepare, hwalk, rfl⟩ := reportOn_of_report h hr
  obtain ⟨hscan, hwalker, -⟩ := of_prepare hprepare
  have hreport : (s.reportOn now (candidates.map fun c => (c, (directory entries).read c.path))).root = s.root := rfl
  rw [hreport]
  rw [← hscan] at hroot hwalker
  have hread : (directory entries).read s.root = .ok bytes := by
    rw [FileTree.read, find, hroot]
    rfl
  refine ⟨hread, fun i hi => ?_⟩
  obtain ⟨c, hc, -, -, -, hlocation⟩ := Scan.exists_candidate_of_mem_issues hi
  have hpath : c.path = s.root := by
    have hentry : Except.ok c ∈ s.walker.walk (directory entries) := hwalk ▸ List.mem_map_of_mem hc
    rw [Walker.walk_eq_visit (hwalker ▸ hroot), Option.mem_toList] at hentry
    exact (Walker.visited_of_visit? hentry).trans hwalker
  have hempty : i.location.file = ⟨[]⟩ := by rw [hlocation, hpath, Path.relativeTo_self]
  have hnothing : (directory entries).read (s.root / i.location.file) = .error .notDirectory := by
    rw [hempty, read_div_empty hroot]
  refine ⟨hempty, hnothing, ?_⟩
  unfold drawn?
  rw [readText, hnothing]
  rfl

/-- A root that is the file itself. -/
theorem report_unnamed_unbalanced : ∃ r, (syntaxPlan ⟨"d/a.go"⟩).report ⟨"/"⟩ unbalancedTree default = .ok r ∧
    unbalancedTree.read r.root = .ok [0x7d] ∧ ∃ i ∈ r.issues, i.location.file = ⟨[]⟩ ∧
      unbalancedTree.read (r.root / i.location.file) = .error .notDirectory ∧ drawn? unbalancedTree r.root i = none := by
  have hroot : (syntaxPlan ⟨"d/a.go"⟩).absoluteRoot ⟨"/"⟩ = ⟨"/d/a.go"⟩ := by decide
  have hplace : unbalancedTree.resolve ⟨"/d/a.go"⟩ = .ok (["d", "a.go"], .file [0x7d]) := by
    cbv
  have hwalk : Walker.walk { root := ⟨"/d/a.go"⟩ } unbalancedTree = [⟨⟨"/d/a.go"⟩, .go⟩].map .ok := by
    cbv
  rw [← hroot] at hplace hwalk
  obtain ⟨r, hr, i, hi⟩ := exists_issue_unbalanced hwalk
  obtain ⟨hread, hissues⟩ := report_unnamed _ eachOnce_range hr hplace
  exact ⟨r, hr, hread, i, hi, hissues i hi⟩

end ScanPlan

end ComponentAudit
