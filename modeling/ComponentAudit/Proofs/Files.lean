import ComponentAudit.Proofs.Places
import ComponentAudit.Proofs.Verdicts

/-!
# What each file adds to a report

A report is made of what its scan finds in the files that it looked at, file by file. The issues of a file stand together,
in the order of the files (`Scan.issues_reportOn`), and name the file (`Scan.rule_of_mem_issuesIn`); which rules have failed
and passed depends on the bytes of the files (`Scan.mem_failed_reportOn`, `Scan.mem_passed_reportOn`).
-/

namespace ComponentAudit

open Collector

/-! ## What an issue owes to its rule and its file -/

/-- An issue that a matcher records is that of a match in the file. -/
theorem Matcher.exists_issue_of_mem_calls {m : Matcher} {f : SourceFile} {i : Issue} (h : .record i ∈ m.calls f) :
    ∃ offset text found fix, i = m.issue f offset text found fix := by
  unfold calls at h
  split at h
  · split at h
    · rw [← mem_filterMap_issue?, filterMap_issue?_forbid] at h
      obtain ⟨line, -, hline⟩ := List.mem_filterMap.1 h
      obtain ⟨found, -, rfl⟩ := Option.map_eq_some_iff.1 hline
      exact ⟨_, _, _, _, rfl⟩
    · unfold requireDeclaration at h
      split at h
      · split at h
        · cases List.mem_singleton.1 h
        · exact absurd h List.not_mem_nil
      · split at h
        · cases List.mem_singleton.1 h
        · cases List.mem_singleton.1 h
          exact ⟨_, _, _, _, rfl⟩
    · exact absurd h List.not_mem_nil
    · exact absurd h List.not_mem_nil
  · exact absurd h List.not_mem_nil

/-- An issue that a rule records has the severity of the rule, and is in the file that the rule looks at. -/
theorem Rule.severity_and_file_of_mem_calls {r : Rule} {f : SourceFile} {outcome : Except SyntaxFailure Unit} {i : Issue}
    (h : .record i ∈ r.calls f outcome) : i.severity = r.severity ∧ i.location.file = f.relativePath := by
  rcases of_mem_calls h with ⟨-, hcall⟩ | ⟨-, hcall⟩ | ⟨m, -, hrule, hcall⟩
  · cases outcome with
    | ok u => cases hcall
    | error failure =>
      cases hcall
      exact ⟨rfl, f.file_point _ _⟩
  · cases outcome with
    | ok u => cases hcall
    | error failure => cases hcall
  · obtain ⟨offset, text, found, fix, rfl⟩ := Matcher.exists_issue_of_mem_calls hcall
    exact ⟨hrule ▸ rfl, rfl⟩

/-- An issue that a check of bytes records is one of a rule, in the file that was checked. -/
theorem Checker.rule_of_mem_checkBytes {c : Checker} {root path : Path} {kind : FileKind} {bytes : List UInt8} {i : Issue}
    (h : i ∈ (c.checkBytes root path kind bytes).issues) :
    ∃ r ∈ c.registry.rules, r.id = i.ruleId ∧ i.severity = r.severity ∧ i.location.file = path.relativeTo root := by
  obtain ⟨r, hr, hid, hcall⟩ := mem_issues_checkBytes.1 h
  exact ⟨r, hr, hid, Rule.severity_and_file_of_mem_calls hcall⟩

/-! ## Reports on files -/

namespace Scan

/-- The report of a scan on some files that it looked at. -/
def reportOn (s : Scan) (now : Timestamp) (looked : Looked) : Report :=
  s.report now (s.tallyOf looked)

/-- The issues that a scan finds in a file; none in a file that it cannot read. -/
def issuesIn (s : Scan) : Candidate × Except FileError (List UInt8) → List Issue
  | (c, .ok bytes) => (s.checker.checkBytes s.root c.path c.kind bytes).issues
  | (_, .error _) => []

/-- The issues of a file are issues of rules, and name the file. -/
theorem rule_of_mem_issuesIn {s : Scan} {file : Candidate × Except FileError (List UInt8)} {i : Issue}
    (h : i ∈ s.issuesIn file) :
    ∃ r ∈ s.registry.rules, r.id = i.ruleId ∧ i.severity = r.severity ∧
      i.location.file = file.1.path.relativeTo s.root := by
  obtain ⟨c, read⟩ := file
  cases read with
  | ok bytes => exact Checker.rule_of_mem_checkBytes h
  | error e => exact absurd h List.not_mem_nil

/-- The file as a skipped one, if it cannot be read. -/
def skippedIn (s : Scan) : Candidate × Except FileError (List UInt8) → List Path
  | (_, .ok _) => []
  | (c, .error _) => [c.path.relativeTo s.root]

/-- What some more files add to a tally: their issues and the skipped ones among them, in their order. -/
theorem foldl_add_checkRead (s : Scan) (looked : Looked) (t : Tally) :
    ((looked.map fun (c, read) => s.checkRead c read).foldl Tally.add t).found.issues =
        t.found.issues ++ looked.flatMap s.issuesIn ∧
      ((looked.map fun (c, read) => s.checkRead c read).foldl Tally.add t).skippedFiles =
        t.skippedFiles ++ looked.flatMap s.skippedIn := by
  induction looked generalizing t with
  | nil => exact ⟨(List.append_nil _).symm, (List.append_nil _).symm⟩
  | cons file rest ih =>
    obtain ⟨hissues, hskipped⟩ := ih (t.add (s.checkRead file.1 file.2))
    rw [List.map_cons, List.foldl_cons, hissues, hskipped, List.flatMap_cons, List.flatMap_cons, ← List.append_assoc,
      ← List.append_assoc]
    obtain ⟨c, read⟩ := file
    cases read with
    | ok bytes => exact ⟨rfl, by simp only [checkRead, Tally.add, skippedIn, List.append_nil]⟩
    | error e => exact ⟨by simp only [checkRead, Tally.add, issuesIn, List.append_nil], rfl⟩

variable (s : Scan) (now : Timestamp) (looked : Looked)

/-- The issues of a report are those of the files, one file after the other. -/
theorem issues_reportOn : (s.reportOn now looked).issues = looked.flatMap s.issuesIn :=
  (s.foldl_add_checkRead looked .empty).1

/-- The skipped files of a report are those that cannot be read. -/
theorem skippedFiles_reportOn : (s.reportOn now looked).skippedFiles = looked.flatMap s.skippedIn :=
  (s.foldl_add_checkRead looked .empty).2

/-- A report counts all files. -/
theorem filesChecked_reportOn : (s.reportOn now looked).filesChecked = looked.length := by
  have hcount := Tally.filesChecked_foldl_add (looked.map fun (c, read) => s.checkRead c read) .empty
  rw [List.length_map] at hcount
  exact hcount.trans (Nat.zero_add _)

/-- A run ends with the first error of its walk, or with the report on what it read of the candidates of the walk. -/
theorem run_eq_reportOn (files : FileTree) {order : Nat → List Nat} (h : EachOnce order) :
    s.run files now order =
      (((s.walker.walk files).mapM id).map fun candidates : List Candidate =>
        s.reportOn now (candidates.map fun c => (c, files.read c.path))).mapError .walk := by
  have htally : ∀ candidates : List Candidate, (candidates.map (s.checkFile files)).foldl Tally.add .empty =
      s.tallyOf (candidates.map fun c => (c, files.read c.path)) := by
    intro candidates
    rw [tallyOf, List.map_map]
    rfl
  rw [run, tally_eq s files h]
  cases (s.walker.walk files).mapM id with
  | error e => rfl
  | ok candidates => exact congrArg (fun t => Except.ok (s.report now t)) (htally candidates)

variable {s} in
/-- A run whose walk comes to no error ends with the report on what it read of the candidates. -/
theorem run_of_walk {files : FileTree} {order : Nat → List Nat} {candidates : List Candidate} (h : EachOnce order)
    (hwalk : s.walker.walk files = candidates.map .ok) :
    s.run files now order = .ok (s.reportOn now (candidates.map fun c => (c, files.read c.path))) := by
  rw [run_eq_reportOn s now files h, hwalk, Tally.mapM_id_ok]
  rfl

variable {s now looked} {id : String}

/-- A rule has failed in a report exactly if it fails on the bytes of some file. -/
theorem mem_failed_reportOn : id ∈ (s.reportOn now looked).failed ↔
    ∃ c bytes, (c, .ok bytes) ∈ looked ∧ s.registry.FailsOn id s.checker.parser c.kind bytes := by
  have hnone : id ∉ Tally.empty.found.failed.ids := IdSet.mem_empty id
  have hfiles := @Tally.mem_foldl_add Collector.failed (fun _ _ => rfl) (looked.map fun (c, read) => s.checkRead c read)
    .empty id
  rw [or_iff_right hnone, exists_checked_iff] at hfiles
  simp only [Checker.mem_failed_checkBytes] at hfiles
  exact hfiles

/-- A rule has passed in a report exactly if it passes on the bytes of some file and has not failed. -/
theorem mem_passed_reportOn : id ∈ (s.reportOn now looked).passed ↔
    (∃ c bytes, (c, .ok bytes) ∈ looked ∧ s.registry.PassesOn id s.checker.parser c.kind bytes) ∧
      id ∉ (s.reportOn now looked).failed := by
  have hnone : id ∉ Tally.empty.found.passed.ids := IdSet.mem_empty id
  have hfiles := @Tally.mem_foldl_add Collector.passed (fun _ _ => rfl) (looked.map fun (c, read) => s.checkRead c read)
    .empty id
  rw [or_iff_right hnone, exists_checked_iff] at hfiles
  simp only [Checker.mem_passed_checkBytes] at hfiles
  exact IdSet.mem_difference.trans (and_congr_left' hfiles)

end Scan

/-! ## Reports of plans -/

namespace ScanPlan

variable {p : ScanPlan} {here : Path}

/-- The scan of a plan has the rules and the parser of the plan, and others change nothing else in it. -/
theorem prepare_checker (p : ScanPlan) (here : Path) (g : Registry) (parser : SourceParser) :
    { p with registry := g, parser := parser }.prepare here =
      (p.prepare here).map fun s => { s with checker := .ofRegistry g parser } := by
  unfold prepare
  cases (p.excluded.mapM Glob.parse).mapError ScanError.glob with
  | error e => rfl
  | ok globs => rfl

/-- A plan that can be made ready gives a scan of its root, with its rules and its parser. -/
theorem of_prepare {s : Scan} (h : p.prepare here = .ok s) :
    s.root = p.absoluteRoot here ∧ s.walker.root = p.absoluteRoot here ∧
      s.checker = .ofRegistry p.registry p.parser := by
  unfold prepare at h
  cases hglobs : (p.excluded.mapM Glob.parse).mapError ScanError.glob with
  | error e =>
    rw [hglobs] at h
    cases h
  | ok globs =>
    rw [hglobs] at h
    cases h
    exact ⟨rfl, rfl, rfl⟩

theorem checker_of_prepare {s : Scan} (h : p.prepare here = .ok s) : s.checker = .ofRegistry p.registry p.parser :=
  (of_prepare h).2.2

/-- A plan whose walk comes to no error has a report. -/
theorem report_of_walk {files : FileTree} (now : Timestamp) {order : Nat → List Nat} {s : Scan} {candidates : List Candidate}
    (h : EachOnce order) (hprepare : p.prepare here = .ok s) (hwalk : s.walker.walk files = candidates.map .ok) :
    p.report here files now order = .ok (s.reportOn now (candidates.map fun c => (c, files.read c.path))) := by
  rw [report, hprepare]
  exact Scan.run_of_walk now h hwalk

/-- A plan that walks as the sample scan does has a report on the sample project, if the directory in it can be opened. -/
theorem exists_report_sample (now : Timestamp) {order : Nat → List Nat} {s : Scan} (h : EachOnce order)
    (hprepare : p.prepare here = .ok s) (hwalker : s.walker = Scan.sampleScan.walker) :
    ∃ r, p.report here (Scan.sampleTree (.directory [])) now order = .ok r := by
  have hwalk : s.walker.walk (Scan.sampleTree (.directory [])) = [⟨⟨"/p/a.go"⟩, .go⟩, ⟨⟨"/p/c.go"⟩, .go⟩].map .ok := by
    rw [hwalker, Scan.walk_sample_open]
    rfl
  exact ⟨_, report_of_walk now h hprepare hwalk⟩

/-- A report of a plan is the report of its scan on what it read of the candidates of the walk. -/
theorem reportOn_of_report {files : FileTree} {now : Timestamp} {order : Nat → List Nat} {r : Report} (h : EachOnce order)
    (hr : p.report here files now order = .ok r) :
    ∃ (s : Scan) (candidates : List Candidate), p.prepare here = .ok s ∧
      s.walker.walk files = candidates.map .ok ∧
      r = s.reportOn now (candidates.map fun c => (c, files.read c.path)) := by
  unfold report at hr
  cases hprepare : p.prepare here with
  | error e =>
    rw [hprepare] at hr
    cases hr
  | ok s =>
    rw [hprepare] at hr
    obtain ⟨candidates, hwalk, hreport⟩ := Scan.report_of_run h hr
    exact ⟨s, candidates, rfl, hwalk, hreport⟩

end ScanPlan

end ComponentAudit
