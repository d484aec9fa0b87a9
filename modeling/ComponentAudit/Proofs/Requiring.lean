import Mathlib.Data.List.Forall2
import ComponentAudit.Proofs.Files
import ComponentAudit.Rules.Preset

/-!
# What it means that a rule is required

A rule that is required gives errors in place of warnings, and where it has nothing to complain about, it passes. It does
nothing else: two scans whose rules differ in this only find the same issues, apart from their severities
(`Checker.issues_checkBytes`), and the same rules fail (`Registry.failsOn_iff`). A rule that becomes required may pass in
addition and never loses a pass (`Registry.passesOn_of_raised`). `ScanPlan.report_sameButRequired` puts this together for
whole scans.
-/

namespace ComponentAudit

open Collector Pattern Text

/-- Two rules that are equal apart from whether they are required. -/
def Rule.SameButRequired (r r' : Rule) : Prop :=
  ∃ required, r' = { r with required := required }

/-- Two registries with the same rules in the same order, apart from which of them are required. -/
def Registry.SameButRequired (g g' : Registry) : Prop :=
  List.Forall₂ Rule.SameButRequired g.rules g'.rules

/-- Two issues that are equal apart from their severities. -/
def Issue.SameButSeverity (i i' : Issue) : Prop :=
  ∃ severity, i' = { i with severity := severity }

/-- Two matchers for rules that are equal apart from whether they are required. -/
def Matcher.SameButRequired (m m' : Matcher) : Prop :=
  ∃ required, m' = { m with rule := { m.rule with required := required } }

namespace Rule.SameButRequired

variable {r r' : Rule}

theorem symm (h : r.SameButRequired r') : r'.SameButRequired r := by
  obtain ⟨required, rfl⟩ := h
  exact ⟨r.required, rfl⟩

theorem id_eq (h : r.SameButRequired r') : r'.id = r.id := by
  obtain ⟨required, rfl⟩ := h
  rfl

theorem kind_eq (h : r.SameButRequired r') : r'.kind = r.kind := by
  obtain ⟨required, rfl⟩ := h
  rfl

/-- Whether a rule fails does not depend on whether it is required. -/
theorem fails (h : r.SameButRequired r') {kind : FileKind} {outcome : Except SyntaxFailure Unit} {text : List Char}
    (hfails : r.Fails kind outcome text) : r'.Fails kind outcome text := by
  obtain ⟨required, rfl⟩ := h
  exact hfails

/-- A rule that passes still does if it is required; rules on syntax and compilation pass in any case. -/
theorem passes (h : r.SameButRequired r') {kind : FileKind} {outcome : Except SyntaxFailure Unit} {text : List Char}
    (hraised : r.kind = .syntaxCheck ∨ r.kind = .compilation ∨ (r.required = true → r'.required = true))
    (hpasses : r.Passes kind outcome text) : r'.Passes kind outcome text := by
  obtain ⟨required, rfl⟩ := h
  obtain ⟨hkind, hpasses⟩ := hpasses
  refine ⟨hkind, ?_⟩
  cases hk : r.kind with
  | syntaxCheck => simpa only [hk] using hpasses
  | compilation => simpa only [hk] using hpasses
  | pattern pattern =>
    simp only [hk, reduceCtorEq, false_or] at hpasses hraised ⊢
    obtain ⟨regex, hregex, hnone, hrequired⟩ := hpasses
    exact ⟨regex, hregex, hnone, hraised hrequired⟩
  | importRequirement pattern declaration =>
    simp only [hk, reduceCtorEq, false_or] at hpasses hraised ⊢
    obtain ⟨regex, hregex, hused | ⟨hunused, hrequired⟩⟩ := hpasses
    · exact ⟨regex, hregex, Or.inl hused⟩
    · exact ⟨regex, hregex, Or.inr ⟨hunused, hraised hrequired⟩⟩

end Rule.SameButRequired

/-- The registry of the strict rules. -/
def Rules.strictRegistry : Registry := ⟨Preset.strict.rules, by decide⟩

/-- The strict rules are the built-in ones, apart from which of them are required. -/
theorem Rules.sameButRequired_strict : Rules.registry.SameButRequired strictRegistry :=
  List.forall₂_map_right_iff.2 (List.forall₂_same.2 fun _ _ => ⟨true, rfl⟩)

/-! ## The issues of a file -/

/-- What a rule on syntax records. -/
theorem Rule.SameButRequired.issue_syntaxCall {r r' : Rule} (h : r.SameButRequired r') (f : SourceFile)
    (outcome : Except SyntaxFailure Unit) :
    Option.Rel Issue.SameButSeverity (Checker.syntaxCall f outcome r).issue? (Checker.syntaxCall f outcome r').issue? := by
  obtain ⟨required, rfl⟩ := h
  cases outcome with
  | ok u => exact .none
  | error failure => exact .some ⟨_, rfl⟩

/-- A rule on compilation records nothing. -/
theorem Checker.issue_compilationCall (outcome : Except SyntaxFailure Unit) (r : Rule) :
    (compilationCall outcome r).issue? = none := by
  cases outcome with
  | ok u => rfl
  | error failure => rfl

namespace Matcher

/-- The matchers of two rules, if their pattern can be used. -/
theorem sameButRequired_ofRule? {r r' : Rule} (h : r.SameButRequired r') :
    Option.Rel Matcher.SameButRequired (ofRule? r) (ofRule? r') := by
  obtain ⟨required, rfl⟩ := h
  unfold ofRule?
  cases r.kind.regex? with
  | none => exact .none
  | some pattern =>
    simp only [Option.bind_some]
    cases compile pattern with
    | ok regex => exact .some ⟨required, rfl⟩
    | error reason => exact .none

/-- A rule on text is left out whether it is required or not. -/
theorem leftOut?_eq {r r' : Rule} (h : r.SameButRequired r') : leftOut? r' = leftOut? r := by
  obtain ⟨required, rfl⟩ := h
  rfl

variable {m m' : Matcher}

/-- The issues of a forbidden pattern. -/
theorem issues_forbid (h : m.SameButRequired m') (f : SourceFile) :
    List.Forall₂ Issue.SameButSeverity ((m.forbid f).filterMap Call.issue?) ((m'.forbid f).filterMap Call.issue?) := by
  obtain ⟨required, rfl⟩ := h
  rw [filterMap_issue?_forbid, filterMap_issue?_forbid]
  refine List.rel_filterMap (R := Eq) (fun line line' hline => ?_) (List.forall₂_refl f.lines)
  subst hline
  cases m.regex.find? line.text with
  | none => exact .none
  | some found => exact .some ⟨_, rfl⟩

/-- The issue of an import requirement. -/
theorem issues_requireDeclaration (h : m.SameButRequired m') (declaration : String) (f : SourceFile) :
    List.Forall₂ Issue.SameButSeverity ((m.requireDeclaration declaration f).filterMap Call.issue?)
      ((m'.requireDeclaration declaration f).filterMap Call.issue?) := by
  obtain ⟨required, rfl⟩ := h
  have silent : ∀ required id, (if required = true then [Call.pass id] else []).filterMap Call.issue? = [] := by
    intro required id
    cases required with
    | true => rfl
    | false => rfl
  unfold requireDeclaration
  cases m.regex.find? f.content with
  | none =>
    simp only [silent]
    exact .nil
  | some usage =>
    cases Text.contains declaration.toList f.content with
    | true => exact .nil
    | false => exact .cons ⟨_, rfl⟩ .nil

/-- The issues of a matcher. -/
theorem issues_calls (h : m.SameButRequired m') (f : SourceFile) :
    List.Forall₂ Issue.SameButSeverity ((m.calls f).filterMap Call.issue?) ((m'.calls f).filterMap Call.issue?) := by
  have hkind : m'.rule.kind = m.rule.kind := by
    obtain ⟨required, rfl⟩ := h
    rfl
  have happlies : m'.rule.appliesTo f.kind = m.rule.appliesTo f.kind := by
    obtain ⟨required, rfl⟩ := h
    rfl
  unfold calls
  rw [hkind, happlies]
  split
  · cases m.rule.kind with
    | syntaxCheck => exact .nil
    | compilation => exact .nil
    | pattern pattern => exact issues_forbid h f
    | importRequirement pattern declaration => exact issues_requireDeclaration h declaration f
  · exact .nil

end Matcher

namespace Checker

variable {c c' : Checker}

/-- The same rules are left out. -/
theorem invalidRules_sameButRequired (h : c.registry.SameButRequired c'.registry) : c'.invalidRules = c.invalidRules := by
  have hrules : ∀ {rules rules' : List Rule}, List.Forall₂ Rule.SameButRequired rules rules' →
      rules'.filterMap Matcher.leftOut? = rules.filterMap Matcher.leftOut? := by
    intro rules rules' h
    induction h with
    | nil => rfl
    | cons hr _ ih => rw [List.filterMap_cons, List.filterMap_cons, Matcher.leftOut?_eq hr, ih]
  rw [invalidRules_eq, invalidRules_eq, hrules h]

/-- The rules of a kind that inspect a file correspond to each other. -/
theorem rulesOf_sameButRequired (h : c.registry.SameButRequired c'.registry) (kind : RuleKind) (f : SourceFile) :
    List.Forall₂ Rule.SameButRequired (c.rulesOf kind f) (c'.rulesOf kind f) := by
  refine List.rel_filter (fun r r' hr => ?_) (List.rel_filter (fun r r' hr => ?_) h)
  · obtain ⟨required, rfl⟩ := hr
    rfl
  · obtain ⟨required, rfl⟩ := hr
    rfl

/-- The issues that are recorded for a file and the outcome of its syntax check. -/
theorem issues_callsFor (h : c.registry.SameButRequired c'.registry) (f : SourceFile) (outcome : Except SyntaxFailure Unit) :
    List.Forall₂ Issue.SameButSeverity ((c.callsFor f outcome).filterMap Call.issue?)
      ((c'.callsFor f outcome).filterMap Call.issue?) := by
  have hmatchers : List.Forall₂ Matcher.SameButRequired c.matchers c'.matchers := by
    rw [matchers_eq, matchers_eq]
    exact List.rel_filterMap (fun _ _ hr => Matcher.sameButRequired_ofRule? hr) h
  simp only [callsFor, List.filterMap_append, List.filterMap_map, Matcher.allCalls, List.filterMap_flatMap]
  refine List.rel_append (List.rel_append ?_ ?_) ?_
  · exact List.rel_filterMap (fun _ _ hr => hr.issue_syntaxCall f outcome) (rulesOf_sameButRequired h .syntaxCheck f)
  · exact List.rel_flatMap hmatchers fun _ _ hm => Matcher.issues_calls hm f
  · refine List.rel_filterMap (fun r r' _ => ?_) (rulesOf_sameButRequired h .compilation f)
    simp only [Function.comp_apply, issue_compilationCall]
    exact .none

/-- The issues of the bytes of a file agree one by one, apart from their severities. -/
theorem issues_checkBytes (h : c.registry.SameButRequired c'.registry) (hparser : c'.parser = c.parser) (root path : Path)
    (kind : FileKind) (bytes : List UInt8) :
    List.Forall₂ Issue.SameButSeverity (c.checkBytes root path kind bytes).issues
      (c'.checkBytes root path kind bytes).issues := by
  rw [checkBytes_eq, checkBytes_eq, hparser, issues_runAll (plain_callsFor c _ _), issues_runAll (plain_callsFor c' _ _)]
  exact issues_callsFor h _ _

end Checker

/-! ## The verdicts on a file -/

namespace Registry

/-- Every member of a list has its counterpart in a list that corresponds to it. -/
theorem exists_of_mem_forall₂ {α β : Type} {R : α → β → Prop} {l : List α} {l' : List β} (h : List.Forall₂ R l l') {x : α}
    (hx : x ∈ l) : ∃ y ∈ l', R x y := by
  induction h with
  | nil => exact absurd hx List.not_mem_nil
  | cons hxy _ ih =>
    rcases List.mem_cons.1 hx with rfl | hx
    · exact ⟨_, List.mem_cons_self .., hxy⟩
    · obtain ⟨y, hy, hR⟩ := ih hx
      exact ⟨y, List.mem_cons_of_mem _ hy, hR⟩

variable {g g' : Registry} {id : String} {parser : SourceParser} {kind : FileKind} {bytes : List UInt8}

theorem SameButRequired.symm (h : g.SameButRequired g') : g'.SameButRequired g :=
  List.Forall₂.flip (h.imp fun _ _ hr => hr.symm)

/-- Rules of the same identifier are the same, apart from whether they are required. -/
theorem SameButRequired.rule {r r' : Rule} (h : g.SameButRequired g') (hr : r ∈ g.rules) (hr' : r' ∈ g'.rules)
    (hid : r'.id = r.id) : r.SameButRequired r' := by
  obtain ⟨r'', hr'', hsame⟩ := exists_of_mem_forall₂ h hr
  obtain rfl : r' = r'' := eq_of_id hr'' hr' (hid.trans hsame.id_eq.symm)
  exact hsame

/-- The same rules fail on the bytes of a file. -/
theorem failsOn_iff (h : g.SameButRequired g') : g'.FailsOn id parser kind bytes ↔ g.FailsOn id parser kind bytes := by
  have fails : ∀ {g g' : Registry}, g.SameButRequired g' → g.FailsOn id parser kind bytes →
      g'.FailsOn id parser kind bytes := by
    rintro g g' h ⟨r, hr, hid, hfails⟩
    obtain ⟨r', hr', hsame⟩ := exists_of_mem_forall₂ h hr
    exact ⟨r', hr', hsame.id_eq.trans hid, hsame.fails hfails⟩
  exact ⟨fails h.symm, fails h⟩

/-- A rule that passes on the bytes of a file still does if it has become required. -/
theorem passesOn_of_raised {r r' : Rule} (h : g.SameButRequired g') (hr : r ∈ g.rules) (hr' : r' ∈ g'.rules)
    (hid : r'.id = r.id)
    (hraised : r.kind = .syntaxCheck ∨ r.kind = .compilation ∨ (r.required = true → r'.required = true))
    (hpasses : g.PassesOn r.id parser kind bytes) : g'.PassesOn r.id parser kind bytes := by
  obtain ⟨r₀, hr₀, hid₀, hpasses⟩ := hpasses
  obtain rfl : r₀ = r := eq_of_id hr hr₀ hid₀
  exact ⟨r', hr', hid, (h.rule hr hr' hid).passes hraised hpasses⟩

end Registry

/-! ## Scans -/

/-- Two reports agree as those of scans whose rules differ only in which of them are required: the issues one by one, apart
from their severities, each of which is that of its rule; the rules that failed and all counts but those by severity; and of
the rules that passed, those that inspect syntax, and those that are required in both scans or in none. A rule on text that
is required in the second scan only may have passed there in addition. -/
structure Report.Agrees (r : Report) (g g' : Registry) (r' : Report) : Prop where
  issues : List.Forall₂ Issue.SameButSeverity r.issues r'.issues
  rated : ∀ i ∈ r.issues, ∃ rule ∈ g.rules, rule.id = i.ruleId ∧ i.severity = if rule.required then .error else .warning
  rated' : ∀ i ∈ r'.issues, ∃ rule ∈ g'.rules, rule.id = i.ruleId ∧ i.severity = if rule.required then .error else .warning
  failed : r'.failed = r.failed
  invalidRules : r'.invalidRules = r.invalidRules
  filesChecked : r'.filesChecked = r.filesChecked
  skippedFiles : r'.skippedFiles = r.skippedFiles
  total : r'.summary.total = r.summary.total
  isPassing : r'.isPassing = r.isPassing
  passed : ∀ rule ∈ g.rules, ∀ rule' ∈ g'.rules, rule'.id = rule.id →
    rule.kind = .syntaxCheck ∨ rule.kind = .compilation ∨ rule'.required = rule.required →
    (rule.id ∈ r'.passed ↔ rule.id ∈ r.passed)
  raised : ∀ rule ∈ g.rules, ∀ rule' ∈ g'.rules, rule'.id = rule.id → rule.required = false → rule'.required = true →
    rule.id ∈ r.passed → rule.id ∈ r'.passed

namespace Scan

variable {s s' : Scan} {now now' : Timestamp} {looked : Looked}

/-- The issues of a report are rated as their rules are. -/
theorem severity_of_mem_reportOn {i : Issue} (h : i ∈ (s.reportOn now looked).issues) :
    ∃ rule ∈ s.registry.rules, rule.id = i.ruleId ∧ i.severity = if rule.required then .error else .warning := by
  rw [issues_reportOn] at h
  obtain ⟨file, -, hi⟩ := List.mem_flatMap.1 h
  obtain ⟨rule, hrule, hid, hseverity, -⟩ := rule_of_mem_issuesIn hi
  exact ⟨rule, hrule, hid, hseverity⟩

/-- A report notes the same failures. -/
theorem failed_reportOn (h : s.registry.SameButRequired s'.registry) (hparser : s'.checker.parser = s.checker.parser) :
    (s'.reportOn now' looked).failed = (s.reportOn now looked).failed := by
  refine congrArg IdSet.ids (IdSet.ext fun id => ?_)
  have hiff : id ∈ (s.reportOn now looked).failed ↔ _ := mem_failed_reportOn
  have hiff' : id ∈ (s'.reportOn now' looked).failed ↔ _ := mem_failed_reportOn
  simp only [hparser, Registry.failsOn_iff h] at hiff'
  exact hiff'.trans hiff.symm

/-- A rule that passed still has if it has become required. -/
theorem passed_reportOn_of_raised (h : s.registry.SameButRequired s'.registry)
    (hparser : s'.checker.parser = s.checker.parser) {rule rule' : Rule} (hrule : rule ∈ s.registry.rules)
    (hrule' : rule' ∈ s'.registry.rules) (hid : rule'.id = rule.id)
    (hraised : rule.kind = .syntaxCheck ∨ rule.kind = .compilation ∨ (rule.required = true → rule'.required = true))
    (hpassed : rule.id ∈ (s.reportOn now looked).passed) : rule.id ∈ (s'.reportOn now' looked).passed := by
  have hfailed : (s'.reportOn now' looked).failed = (s.reportOn now looked).failed := failed_reportOn h hparser
  obtain ⟨⟨c, bytes, hmem, hpasses⟩, hnot⟩ := mem_passed_reportOn.1 hpassed
  refine mem_passed_reportOn.2 ⟨⟨c, bytes, hmem, ?_⟩, ?_⟩
  · rw [hparser]
    exact Registry.passesOn_of_raised h hrule hrule' hid hraised hpasses
  · rw [hfailed]
    exact hnot

/-- Two scans whose rules differ only in which of them are required report alike on the same files. -/
theorem agrees_reportOn (h : s.registry.SameButRequired s'.registry) (hparser : s'.checker.parser = s.checker.parser)
    (hroot : s'.root = s.root) :
    (s.reportOn now looked).Agrees s.registry s'.registry (s'.reportOn now' looked) := by
  have hissues : List.Forall₂ Issue.SameButSeverity (s.reportOn now looked).issues (s'.reportOn now' looked).issues := by
    rw [issues_reportOn, issues_reportOn]
    refine List.rel_flatMap (R := Eq) (List.forall₂_refl looked) fun file file' hfile => ?_
    subst hfile
    obtain ⟨c, read⟩ := file
    cases read with
    | ok bytes =>
      simp only [issuesIn, hroot]
      exact Checker.issues_checkBytes h hparser _ _ _ _
    | error e => exact .nil
  have htotal : (s'.reportOn now' looked).summary.total = (s.reportOn now looked).summary.total := hissues.length_eq.symm
  refine
    { issues := hissues
      rated := fun i hi => severity_of_mem_reportOn hi
      rated' := fun i hi => severity_of_mem_reportOn hi
      failed := failed_reportOn h hparser
      invalidRules := Checker.invalidRules_sameButRequired h
      filesChecked := by rw [filesChecked_reportOn, filesChecked_reportOn]
      skippedFiles := ?_
      total := htotal
      isPassing := by rw [Report.isPassing, Report.isPassing, htotal]
      passed := fun rule hrule rule' hrule' hid hsame => ⟨fun hpassed => ?_, fun hpassed => ?_⟩
      raised := fun rule hrule rule' hrule' hid _ hraised hpassed => ?_ }
  · have hskipped : s'.skippedIn = s.skippedIn := by
      funext file
      obtain ⟨c, read⟩ := file
      cases read with
      | ok bytes => rfl
      | error e => simp only [skippedIn, hroot]
    rw [skippedFiles_reportOn, skippedFiles_reportOn, hskipped]
  · have hkind : rule'.kind = rule.kind := (h.rule hrule hrule' hid).kind_eq
    rw [← hid] at hpassed ⊢
    refine passed_reportOn_of_raised h.symm hparser.symm hrule' hrule hid.symm ?_ hpassed
    rw [hkind]
    exact hsame.imp_right (Or.imp_right fun hrequired => hrequired.symm.trans)
  · exact passed_reportOn_of_raised h hparser hrule hrule' hid
      (hsame.imp_right (Or.imp_right fun hrequired => hrequired.trans)) hpassed
  · exact passed_reportOn_of_raised h hparser hrule hrule' hid (Or.inr (Or.inr fun _ => hraised)) hpassed

/-- Two scans of the same files whose rules differ only in which of them are required end alike. -/
theorem run_sameButRequired (h : s.registry.SameButRequired s'.registry) (hparser : s'.checker.parser = s.checker.parser)
    (hroot : s'.root = s.root) (hwalker : s'.walker = s.walker) (files : FileTree) {order order' : Nat → List Nat}
    (horder : EachOnce order) (horder' : EachOnce order') :
    (∃ e, s.run files now order = .error e ∧ s'.run files now' order' = .error e) ∨
    ∃ r r', s.run files now order = .ok r ∧ s'.run files now' order' = .ok r' ∧ r.Agrees s.registry s'.registry r' := by
  rw [run_eq_reportOn s now files horder, run_eq_reportOn s' now' files horder', hwalker]
  cases (s.walker.walk files).mapM id with
  | error e => exact Or.inl ⟨.walk e, rfl, rfl⟩
  | ok candidates => exact Or.inr ⟨_, _, rfl, rfl, agrees_reportOn h hparser hroot⟩

end Scan

namespace ScanPlan

/-- The scan of a plan has the rules and the parser of the plan, and other rules change nothing else in it. -/
theorem prepare_registry (p : ScanPlan) (here : Path) (g : Registry) :
    { p with registry := g }.prepare here =
      (p.prepare here).map fun s => { s with checker := .ofRegistry g p.parser } :=
  prepare_checker p here g p.parser

/-- Whether rules are required changes severities, and whether silence is a pass, and nothing else. Two scans whose rules
differ in this only end for the same reason without a report, or with reports that agree, for any files and parser, with any
number of workers. -/
theorem report_sameButRequired (p : ScanPlan) {g : Registry} (hg : p.registry.SameButRequired g) (here : Path)
    (files : FileTree) (now now' : Timestamp) {order order' : Nat → List Nat} (h : EachOnce order) (h' : EachOnce order') :
    (∃ e, p.report here files now order = .error e ∧
      { p with registry := g }.report here files now' order' = .error e) ∨
    ∃ r r', p.report here files now order = .ok r ∧ { p with registry := g }.report here files now' order' = .ok r' ∧
      r.Agrees p.registry g r' := by
  unfold report
  rw [prepare_registry p here g]
  cases hprepare : p.prepare here with
  | error e => exact Or.inl ⟨e, rfl, rfl⟩
  | ok s =>
    have hchecker := checker_of_prepare hprepare
    have hregistry : s.registry = p.registry := congrArg Checker.registry hchecker
    have hparser : s.checker.parser = p.parser := congrArg Checker.parser hchecker
    have hrun := @Scan.run_sameButRequired s { s with checker := .ofRegistry g p.parser } now now' (hregistry ▸ hg)
      hparser.symm rfl rfl files order order' h h'
    rw [hregistry] at hrun
    exact hrun

/-- A plan with the built-in rules. -/
def builtinPlan : ScanPlan where
  root := some ⟨"/p"⟩
  registry := Rules.registry
  parser := .refuseAll ⟨1, 1, "no"⟩
  workers := 2

/-- The built-in rules and the strict ones, which are all required, give reports that agree. -/
theorem report_sameButRequired_strict :
    builtinPlan.registry.SameButRequired Rules.strictRegistry ∧
    (EachOnce fun n => (List.range n).reverse) ∧ EachOnce List.range ∧
    ∃ r r', builtinPlan.report ⟨"/"⟩ (Scan.sampleTree (.directory [])) default (fun n => (List.range n).reverse) = .ok r ∧
      { builtinPlan with registry := Rules.strictRegistry }.report ⟨"/"⟩ (Scan.sampleTree (.directory [])) default
        List.range = .ok r' ∧
      r.Agrees builtinPlan.registry Rules.strictRegistry r' := by
  refine ⟨Rules.sameButRequired_strict, eachOnce_reverse, eachOnce_range, ?_⟩
  obtain ⟨s, hprepare, hwalker⟩ : ∃ s, builtinPlan.prepare ⟨"/"⟩ = .ok s ∧ s.walker = Scan.sampleScan.walker :=
    ⟨_, rfl, rfl⟩
  obtain ⟨r, hreport⟩ := exists_report_sample default eachOnce_reverse hprepare hwalker
  rcases report_sameButRequired builtinPlan Rules.sameButRequired_strict ⟨"/"⟩ (Scan.sampleTree (.directory [])) default
      default eachOnce_reverse eachOnce_range with ⟨e, he, -⟩ | hreports
  · rw [hreport] at he
    cases he
  · exact hreports

end ScanPlan

end ComponentAudit
