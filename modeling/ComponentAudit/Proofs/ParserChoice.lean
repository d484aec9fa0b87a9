import ComponentAudit.Proofs.Files
import ComponentAudit.Proofs.Retaining

/-!
# What the choice of a parser can change

A parser is asked about the syntax of source files, and what it says reaches rules on syntax and compilation only. So two
scans that differ in their parsers agree on what concerns the rules on text (`ScanPlan.report_parsers`). They agree on a file
as a whole where no parser is asked (`Registry.ParserIdle`): for a template, for bytes that are not UTF-8, and where no rule
follows the syntax check.
-/

namespace ComponentAudit

open Text

namespace Registry

/-- The identifiers of the rules on text. -/
def textIds (g : Registry) : List String :=
  (g.rules.filter fun r => r.kind.regex?.isSome).map (·.id)

/-- No rule that inspects files of a kind follows the syntax check. -/
def IgnoresSyntax (g : Registry) (kind : FileKind) : Prop :=
  ∀ r ∈ g.applicable kind, r.kind ≠ .syntaxCheck ∧ r.kind ≠ .compilation

/-- What a parser says of some bytes is not asked for, or makes no difference. -/
def ParserIdle (g : Registry) (kind : FileKind) (bytes : List UInt8) : Prop :=
  kind = .templ ∨ Utf8.decode? bytes = none ∨ g.IgnoresSyntax kind

/-- A rule of a registry is one on text if its identifier is that of one. -/
theorem isSome_regex?_of_mem_textIds {g : Registry} {r : Rule} (hr : r ∈ g.rules) (hid : r.id ∈ g.textIds) :
    r.kind.regex?.isSome = true := by
  obtain ⟨r', hr', hsame⟩ := List.mem_map.1 hid
  obtain ⟨hmem, htext⟩ := List.mem_filter.1 hr'
  obtain rfl : r = r' := eq_of_id hmem hr hsame.symm
  exact htext

/-- With its rules on text only, a registry has no use for the syntax check. -/
theorem ignoresSyntax_retain_textIds (g : Registry) (kind : FileKind) : (g.retain g.textIds).IgnoresSyntax kind := by
  intro r hr
  obtain ⟨hmem, hid⟩ := List.mem_filter.1 (List.mem_of_mem_filter hr)
  have htext := isSome_regex?_of_mem_textIds hmem (List.contains_iff_mem.1 hid)
  constructor
  · intro hkind
    rw [hkind] at htext
    cases htext
  · intro hkind
    rw [hkind] at htext
    cases htext

end Registry

namespace Checker

variable {g : Registry} {kind : FileKind} {bytes : List UInt8}

/-- Where no rule follows the syntax check, its outcome is not seen. -/
theorem callsFor_of_ignoresSyntax {c : Checker} {f : SourceFile} (h : c.registry.IgnoresSyntax f.kind)
    (outcome : Except SyntaxFailure Unit) : c.callsFor f outcome = Matcher.allCalls c.matchers f := by
  have hneeds : c.needsSyntax f.kind = false := by
    rw [needsSyntax, List.any_eq_false]
    intro r hr
    simp [h r hr]
  obtain ⟨hcheck, hcompilation⟩ := rulesOf_eq_nil hneeds
  rw [callsFor, hcheck, hcompilation, List.map_nil, List.map_nil, List.nil_append, List.append_nil]

/-- Any parser will do for the syntax check of a template, and of bytes that are not UTF-8. -/
theorem syntaxOutcome_parsers (P Q : SourceParser) (h : kind = .templ ∨ Utf8.decode? bytes = none) :
    syntaxOutcome P kind bytes = syntaxOutcome Q kind bytes := by
  unfold syntaxOutcome
  rcases h with rfl | hbytes
  · rfl
  · rw [hbytes]

/-- The calls of a checker do not depend on its parser but for the outcome of the syntax check. -/
theorem callsFor_parsers (g : Registry) (P Q : SourceParser) (f : SourceFile) (outcome : Except SyntaxFailure Unit) :
    (ofRegistry g P).callsFor f outcome = (ofRegistry g Q).callsFor f outcome := by
  have hmatchers : (ofRegistry g P).matchers = (ofRegistry g Q).matchers := by
    rw [matchers_eq, matchers_eq]
    rfl
  rw [callsFor, callsFor, hmatchers]
  rfl

/-- Where no parser is asked, a check of bytes comes to the same with any parser. -/
theorem checkBytes_parsers (P Q : SourceParser) (root path : Path) (h : g.ParserIdle kind bytes) :
    (ofRegistry g P).checkBytes root path kind bytes = (ofRegistry g Q).checkBytes root path kind bytes := by
  have hP : (ofRegistry g P).parser = P := rfl
  have hQ : (ofRegistry g Q).parser = Q := rfl
  rw [checkBytes_eq, checkBytes_eq, hP, hQ, callsFor_parsers g P Q]
  by_cases hsame : kind = .templ ∨ Utf8.decode? bytes = none
  · rw [syntaxOutcome_parsers P Q hsame]
  · have hignores : g.IgnoresSyntax kind := by
      rcases h with htempl | hbytes | hignores
      · exact absurd (Or.inl htempl) hsame
      · exact absurd (Or.inr hbytes) hsame
      · exact hignores
    rw [callsFor_of_ignoresSyntax hignores, callsFor_of_ignoresSyntax hignores]

/-- What a check of bytes notes of the rules on text is the same with any parser. -/
theorem restrict_checkBytes_parsers (g : Registry) (P Q : SourceParser) (root path : Path) (kind : FileKind)
    (bytes : List UInt8) :
    ((ofRegistry g P).checkBytes root path kind bytes).restrict g.textIds.contains =
      ((ofRegistry g Q).checkBytes root path kind bytes).restrict g.textIds.contains := by
  rw [← checkBytes_retain, ← checkBytes_retain, ← ofRegistry_retain, ← ofRegistry_retain]
  exact checkBytes_parsers P Q root path (Or.inr (Or.inr (g.ignoresSyntax_retain_textIds kind)))

/-- The same rules are left out with any parser. -/
theorem invalidRules_parsers (g : Registry) (P Q : SourceParser) :
    (ofRegistry g P).invalidRules = (ofRegistry g Q).invalidRules := by
  rw [invalidRules_eq, invalidRules_eq]
  rfl

end Checker

namespace Scan

/-- The scan with another parser. -/
def withParser (s : Scan) (parser : SourceParser) : Scan :=
  { s with checker := .ofRegistry s.registry parser }

/-- What becomes of a file where no parser is asked. -/
theorem checkRead_withParser (s : Scan) (P Q : SourceParser) (c : Candidate) {bytes : List UInt8}
    (h : s.registry.ParserIdle c.kind bytes) :
    (s.withParser P).checkRead c (.ok bytes) = (s.withParser Q).checkRead c (.ok bytes) :=
  congrArg FileOutcome.checked (Checker.checkBytes_parsers P Q s.root c.path h)

/-- What becomes of a file, as far as rules on text are concerned. -/
theorem restrict_checkRead_withParser (s : Scan) (P Q : SourceParser) (c : Candidate) (read : Except FileError (List UInt8)) :
    ((s.withParser P).checkRead c read).restrict s.registry.textIds.contains =
      ((s.withParser Q).checkRead c read).restrict s.registry.textIds.contains := by
  cases read with
  | ok bytes =>
    exact congrArg FileOutcome.checked (Checker.restrict_checkBytes_parsers s.registry P Q s.root c.path c.kind bytes)
  | error e => rfl

/-- What is known of the rules on text after some files. -/
theorem restrict_tallyOf_withParser (s : Scan) (P Q : SourceParser) (looked : Looked) :
    ((s.withParser P).tallyOf looked).restrict s.registry.textIds.contains =
      ((s.withParser Q).tallyOf looked).restrict s.registry.textIds.contains := by
  rw [tallyOf, tallyOf, Tally.restrict_foldl_add, Tally.restrict_foldl_add, List.map_map, List.map_map]
  congr 2
  funext file
  exact s.restrict_checkRead_withParser P Q file.1 file.2

/-- Reports with different parsers on the same files say the same of the rules on text. -/
theorem restrict_reportOn_withParser (s : Scan) (P Q : SourceParser) (now now' : Timestamp) (looked : Looked) :
    (((s.withParser P).reportOn now looked).restrict s.registry.textIds.contains).SameButTime
      (((s.withParser Q).reportOn now' looked).restrict s.registry.textIds.contains) := by
  rw [reportOn, reportOn, ← report_restrict, ← report_restrict, restrict_tallyOf_withParser s P Q]
  have hinvalid : ((s.withParser P).retain s.registry.textIds).checker.invalidRules =
      ((s.withParser Q).retain s.registry.textIds).checker.invalidRules :=
    congrArg (List.filter fun i : InvalidRule => s.registry.textIds.contains i.ruleId)
      (Checker.invalidRules_parsers s.registry P Q)
  rw [Report.SameButTime, report, report, hinvalid]
  rfl

end Scan

namespace ScanPlan

/-- A plan with another parser gives the scan with that parser. -/
theorem prepare_parsers (p : ScanPlan) (here : Path) (parser : SourceParser) :
    { p with parser := parser }.prepare here = (p.prepare here).map fun s => s.withParser parser := by
  unfold prepare
  cases (p.excluded.mapM Glob.parse).mapError ScanError.glob with
  | error e => rfl
  | ok globs => rfl

/-- Any two parsers give scans that end alike: for the same reason without a report, or with reports on the same files that
say the same of the rules on text, their issues, in the same order and with all their fields, and their verdicts. What a file
adds to the reports is the same as a whole if it is a template, if it is not UTF-8, and if no rule for files of its kind
follows the syntax check. -/
theorem report_parsers (p : ScanPlan) (P Q : SourceParser) (here : Path) (files : FileTree) (now now' : Timestamp)
    {order order' : Nat → List Nat} (h : EachOnce order) (h' : EachOnce order') :
    (∃ e, { p with parser := P }.report here files now order = .error e ∧
      { p with parser := Q }.report here files now' order' = .error e) ∨
    ∃ (s s' : Scan) (candidates : List Candidate) (r r' : Report),
      { p with parser := P }.report here files now order = .ok r ∧
      { p with parser := Q }.report here files now' order' = .ok r' ∧
      (r.restrict p.registry.textIds.contains).SameButTime (r'.restrict p.registry.textIds.contains) ∧
      r = s.reportOn now (candidates.map fun c => (c, files.read c.path)) ∧
      r' = s'.reportOn now' (candidates.map fun c => (c, files.read c.path)) ∧
      { p with parser := P }.prepare here = .ok s ∧ { p with parser := Q }.prepare here = .ok s' ∧
      s.walker.walk files = candidates.map .ok ∧ s'.walker.walk files = candidates.map .ok ∧
      ∀ (c : Candidate) (bytes : List UInt8), p.registry.ParserIdle c.kind bytes →
        s.checkRead c (.ok bytes) = s'.checkRead c (.ok bytes) := by
  unfold report
  rw [prepare_parsers p here P, prepare_parsers p here Q]
  cases hprepare : p.prepare here with
  | error e => exact Or.inl ⟨e, rfl, rfl⟩
  | ok s =>
    have hregistry : s.registry = p.registry := congrArg Checker.registry (checker_of_prepare hprepare)
    have hrun := (s.withParser P).run_eq_reportOn now files h
    have hrun' := (s.withParser Q).run_eq_reportOn now' files h'
    have hwalker : ∀ parser, (s.withParser parser).walker = s.walker := fun _ => rfl
    rw [hwalker] at hrun hrun'
    rcases Tally.mapM_id_cases (s.walker.walk files) with ⟨candidates, hwalk, hm⟩ | ⟨e, -, hm⟩
    · rw [hm] at hrun hrun'
      have hsame := s.restrict_reportOn_withParser P Q now now' (candidates.map fun c => (c, files.read c.path))
      rw [hregistry] at hsame
      refine Or.inr ⟨_, _, candidates, _, _, hrun, hrun', hsame, rfl, rfl, rfl, rfl, hwalk, hwalk, ?_⟩
      intro c bytes hidle
      exact s.checkRead_withParser P Q c (hregistry ▸ hidle)
    · rw [hm] at hrun hrun'
      exact Or.inl ⟨.walk e, hrun, hrun'⟩

/-- A parser that takes every text and one that takes none, for a plan with a rule on syntax and two on text: both scans
report, and say the same of the two. -/
theorem report_parsers_opposite :
    (EachOnce fun n => (List.range n).reverse) ∧ EachOnce List.range ∧
    ∃ r r', { samplePlan with parser := .acceptAll }.report ⟨"/"⟩ (Scan.sampleTree (.directory [])) default
        (fun n => (List.range n).reverse) = .ok r ∧
      { samplePlan with parser := .refuseAll ⟨1, 1, "no"⟩ }.report ⟨"/"⟩ (Scan.sampleTree (.directory [])) default
        List.range = .ok r' ∧
      (r.restrict ["todo", "open"].contains).SameButTime (r'.restrict ["todo", "open"].contains) := by
  have htext : samplePlan.registry.textIds = ["todo", "open"] := by decide
  refine ⟨eachOnce_reverse, eachOnce_range, ?_⟩
  obtain ⟨s, hprepare, hwalker⟩ : ∃ s, { samplePlan with parser := .acceptAll }.prepare ⟨"/"⟩ = .ok s ∧
      s.walker = Scan.sampleScan.walker := ⟨_, rfl, rfl⟩
  obtain ⟨r, hreport⟩ := exists_report_sample default eachOnce_reverse hprepare hwalker
  rcases report_parsers samplePlan .acceptAll (.refuseAll ⟨1, 1, "no"⟩) ⟨"/"⟩ (Scan.sampleTree (.directory [])) default
      default eachOnce_reverse eachOnce_range with ⟨e, he, -⟩ | ⟨-, -, -, r, r', hr, hr', hsame, -⟩
  · rw [hreport] at he
    cases he
  · exact ⟨r, r', hr, hr', htext ▸ hsame⟩

end ScanPlan

end ComponentAudit
