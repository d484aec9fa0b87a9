import ComponentAudit.Proofs.Files

/-!
# Fewer rules before a scan, or after it

A rule says the same whatever other rules there are. So a scan with only some of the rules gives what the scan with all of
them says about those (`ScanPlan.report_retain`): each file adds what it would have added about them, although files may not
be parsed any more.
-/

namespace ComponentAudit

/-- What a report says about the rules to keep. The issues are counted anew. -/
def Report.restrict (keep : String → Bool) (r : Report) : Report :=
  let issues := r.issues.filter fun i => keep i.ruleId
  let passed := r.passed.filter keep
  let failed := r.failed.filter keep
  { r with
    issues
    passed
    failed
    summary := .count issues passed failed
    rules := r.rules.filter fun rule => keep rule.id
    invalidRules := r.invalidRules.filter fun i => keep i.ruleId }

/-- The report of what is left of a collector says what the report of the collector says about the rules to keep. -/
theorem Report.ofCollector_restrict (keep : String → Bool) (frame : Report.Frame) (now : Timestamp) (c : Collector) :
    ofCollector { frame with
        rules := frame.rules.filter fun rule => keep rule.id
        invalidRules := frame.invalidRules.filter fun i => keep i.ruleId } now (c.restrict keep) =
      (ofCollector frame now c).restrict keep := by
  have hpassed : ((c.restrict keep).passed.difference (c.restrict keep).failed).ids =
      (c.passed.difference c.failed).ids.filter keep :=
    congrArg IdSet.ids (IdSet.filter_difference c.passed c.failed keep).symm
  simp only [ofCollector, Report.restrict, hpassed]
  rfl

/-- What became of a file, as far as the rules to keep are concerned. -/
def FileOutcome.restrict (keep : String → Bool) : FileOutcome → FileOutcome
  | .checked found => .checked (found.restrict keep)
  | .unreadable path => .unreadable path

namespace Tally

/-- What is known about the rules to keep after some files. -/
def restrict (keep : String → Bool) (t : Tally) : Tally :=
  { t with found := t.found.restrict keep }

theorem restrict_add (keep : String → Bool) (t : Tally) (o : FileOutcome) :
    (t.add o).restrict keep = (t.restrict keep).add (o.restrict keep) := by
  cases o with
  | checked found => simp only [add, restrict, FileOutcome.restrict, Collector.restrict_absorb]
  | unreadable path => rfl

/-- Leaving out the other rules after some files, or in each of them. -/
theorem restrict_foldl_add (keep : String → Bool) (outcomes : List FileOutcome) (t : Tally) :
    (outcomes.foldl add t).restrict keep = (outcomes.map (FileOutcome.restrict keep)).foldl add (t.restrict keep) := by
  induction outcomes generalizing t with
  | nil => rfl
  | cons o rest ih => rw [List.foldl_cons, ih, restrict_add, List.map_cons, List.foldl_cons]

end Tally

/-- Checking bytes with fewer rules gives what the check with all of them says about those. -/
theorem Checker.checkBytes_retain (c : Checker) (ids : List String) (root path : Path) (kind : FileKind)
    (bytes : List UInt8) :
    (c.retain ids).checkBytes root path kind bytes = (c.checkBytes root path kind bytes).restrict ids.contains := by
  have hparser : (c.retain ids).parser = c.parser := rfl
  rw [checkBytes_eq, checkBytes_eq, hparser, callsFor_retain,
    Collector.restrict_runAll ids.contains (plain_callsFor c _ _), Collector.restrict_empty]

namespace Scan

/-- The scan with only the rules whose identifiers are listed. -/
def retain (s : Scan) (ids : List String) : Scan :=
  { s with checker := s.checker.retain ids }

/-- Checking a file with fewer rules gives what the check with all of them says about those. -/
theorem checkFile_retain (s : Scan) (ids : List String) (files : FileTree) (c : Candidate) :
    (s.retain ids).checkFile files c = (s.checkFile files c).restrict ids.contains := by
  unfold checkFile
  cases files.read c.path with
  | ok bytes => exact congrArg FileOutcome.checked (Checker.checkBytes_retain s.checker ids s.root c.path c.kind bytes)
  | error e => rfl

/-- What a scan with fewer rules reports of what is left of a tally. -/
theorem report_restrict (s : Scan) (ids : List String) (now : Timestamp) (t : Tally) :
    (s.retain ids).report now (t.restrict ids.contains) = (s.report now t).restrict ids.contains := by
  exact Report.ofCollector_restrict ids.contains
    { root := s.root
      session := s.session
      filesChecked := t.filesChecked
      rules := s.registry.rules
      invalidRules := s.checker.invalidRules
      skippedFiles := t.skippedFiles }
    now t.found

/-- A run with fewer rules ends as the run with all of them does, and its report says what that one says about those. -/
theorem run_retain (s : Scan) (ids : List String) (files : FileTree) (now now' : Timestamp) {order order' : Nat → List Nat}
    (h : EachOnce order) (h' : EachOnce order') :
    (s.retain ids).run files now' order' =
      (s.run files now order).map fun r => { r.restrict ids.contains with timestamp := now' } := by
  have hwalker : (s.retain ids).walker = s.walker := rfl
  have hcheck : ∀ candidates : List Candidate, candidates.map ((s.retain ids).checkFile files) =
      (candidates.map (s.checkFile files)).map (FileOutcome.restrict ids.contains) := by
    intro candidates
    rw [List.map_map]
    exact List.map_congr_left fun c _ => checkFile_retain s ids files c
  simp only [run, tally_eq _ files h, tally_eq _ files h', hwalker, hcheck]
  cases (s.walker.walk files).mapM id with
  | error e => rfl
  | ok candidates =>
    have hrestrict := Tally.restrict_foldl_add ids.contains (candidates.map (s.checkFile files)) .empty
    have hreport := s.report_restrict ids now' ((candidates.map (s.checkFile files)).foldl Tally.add .empty)
    rw [hrestrict] at hreport
    exact congrArg Except.ok hreport

end Scan

namespace ScanPlan

/-- Making a plan with fewer rules ready, or leaving the others out of the scan that is ready. -/
theorem prepare_retain (p : ScanPlan) (here : Path) (ids : List String) :
    { p with registry := p.registry.retain ids }.prepare here = (p.prepare here).map fun s => s.retain ids := by
  unfold prepare
  simp only [Checker.ofRegistry_retain]
  cases (p.excluded.mapM Glob.parse).mapError ScanError.glob with
  | error e => rfl
  | ok globs => rfl

/-- Keeping some rules before a scan is keeping what its report says about them. The report with only the listed rules has
the issues of these rules in the same order and with all their fields, their verdicts, their part of the rules left out and
of the rules themselves, and counts of these issues; the rest of the report stays. Whether identifiers are unknown, repeated
or in another order makes no difference, nor do the number of workers and the orders in which they finish the files; and
where there is no report, there is none for the same reason. -/
theorem report_retain (p : ScanPlan) (here : Path) (files : FileTree) (now now' : Timestamp) {order order' : Nat → List Nat}
    (h : EachOnce order) (h' : EachOnce order') (ids : List String) :
    { p with registry := p.registry.retain ids }.report here files now' order' =
      (p.report here files now order).map fun r => { r.restrict ids.contains with timestamp := now' } := by
  unfold report
  rw [prepare_retain]
  cases p.prepare here with
  | error e => rfl
  | ok s => exact Scan.run_retain s ids files now now' h h'

/-- A plan with a rule on syntax, a rule on text and a rule that cannot be used. -/
def samplePlan : ScanPlan where
  root := some ⟨"/p"⟩
  registry :=
    { rules :=
        [{ id := "syntax", name := "Syntax", kind := .syntaxCheck, fileKinds := [.go], message := "wrong" },
          { id := "todo", name := "Todo", kind := .pattern "p", fileKinds := [.go], message := "unfinished" },
          { id := "open", name := "Open", kind := .pattern "(", fileKinds := [.go], message := "never" }]
      distinct := by decide }
  parser := .refuseAll ⟨1, 1, "no"⟩
  workers := 2

/-- Of the three rules only the one on text is kept, and the syntax check is not made any more. -/
theorem report_retain_one :
    (EachOnce fun n => (List.range n).reverse) ∧ EachOnce List.range ∧
    ∃ r, samplePlan.report ⟨"/"⟩ (Scan.sampleTree (.directory [])) default (fun n => (List.range n).reverse) = .ok r ∧
      { samplePlan with registry := samplePlan.registry.retain ["todo", "unknown", "todo"] }.report ⟨"/"⟩
          (Scan.sampleTree (.directory [])) default List.range =
        .ok { r.restrict ["todo", "unknown", "todo"].contains with timestamp := default } := by
  have hretain := report_retain samplePlan ⟨"/"⟩ (Scan.sampleTree (.directory [])) default default eachOnce_reverse eachOnce_range
    ["todo", "unknown", "todo"]
  obtain ⟨s, hprepare, hwalker⟩ : ∃ s, samplePlan.prepare ⟨"/"⟩ = .ok s ∧ s.walker = Scan.sampleScan.walker :=
    ⟨_, rfl, rfl⟩
  obtain ⟨r, hreport⟩ := exists_report_sample default eachOnce_reverse hprepare hwalker
  rw [hreport] at hretain
  exact ⟨eachOnce_reverse, eachOnce_range, r, hreport, hretain⟩

end ScanPlan

end ComponentAudit
