import ComponentAudit.Proofs.Exits
import ComponentAudit.Proofs.Retaining

/-!
# Rules that cannot be used

A rule on text whose pattern is empty or cannot be compiled says nothing about any file (`Rule.calls_of_unusable`), and it
takes nothing away from the other rules: a checker says the same without it (`Checker.callsFor_usable`). So such rules only
show where a scan lists them, and apart from that list the report is the one of a scan that never had them
(`ScanPlan.report_isolated`).
-/

namespace ComponentAudit

open Pattern

namespace Matcher

/-- A pattern can be used if it is not empty and a regular expression within the limit is made of it. -/
theorem compile_eq_ok_iff {pattern : String} {regex : Regex} :
    compile pattern = .ok regex ↔
      pattern ≠ "" ∧ Regex.ofPattern pattern.toList = .ok regex ∧ regex.size ≤ Regex.sizeLimit := by
  unfold compile
  by_cases hempty : pattern = ""
  · simp [hempty]
  · have hfull : ¬ pattern.isEmpty = true := by simpa using hempty
    rw [if_neg hfull]
    cases Regex.ofPattern pattern.toList with
    | error e => simp
    | ok r =>
      by_cases hsize : r.size ≤ Regex.sizeLimit
      · simp only [if_pos hsize, Except.ok.injEq]
        constructor
        · rintro rfl
          exact ⟨hempty, rfl, hsize⟩
        · exact fun h => h.2.1
      · simp only [if_neg hsize, reduceCtorEq, Except.ok.injEq, false_iff]
        rintro ⟨-, rfl, hle⟩
        exact hsize hle

end Matcher

namespace Rule

/-- A rule on text that cannot be used: its pattern is empty, or no regular expression within the limit is made of it. -/
def Unusable (r : Rule) : Prop :=
  ∃ pattern, r.kind.regex? = some pattern ∧
    (pattern = "" ∨ ∀ regex, Regex.ofPattern pattern.toList = .ok regex → Regex.sizeLimit < regex.size)

/-- The rules that cannot be used are those that a scan leaves out. -/
theorem unusable_iff (r : Rule) : r.Unusable ↔ (Matcher.leftOut? r).isSome = true := by
  unfold Unusable Matcher.leftOut?
  cases r.kind.regex? with
  | none => simp
  | some pattern =>
    cases hc : Matcher.compile pattern with
    | ok regex =>
      obtain ⟨hfull, hregex, hsize⟩ := Matcher.compile_eq_ok_iff.1 hc
      simp [hfull, hregex, hsize, hc]
    | error reason =>
      simp only [Option.some.injEq, exists_eq_left', Option.bind_some, hc, Option.isSome_some, iff_true]
      by_cases hempty : pattern = ""
      · exact Or.inl hempty
      · refine Or.inr fun regex hregex => Nat.lt_of_not_le fun hsize => ?_
        rw [Matcher.compile_eq_ok_iff.2 ⟨hempty, hregex, hsize⟩] at hc
        cases hc

instance (r : Rule) : Decidable r.Unusable :=
  decidable_of_iff _ r.unusable_iff.symm

/-- A rule that cannot be used has no matcher. -/
theorem ofRule?_of_unusable {r : Rule} (h : r.Unusable) : Matcher.ofRule? r = none := by
  rw [unusable_iff] at h
  unfold Matcher.leftOut? at h
  unfold Matcher.ofRule?
  cases hk : r.kind.regex? with
  | none => rfl
  | some pattern =>
    cases hc : Matcher.compile pattern with
    | ok regex => simp [hk, hc] at h
    | error reason => simp [hc, Except.toOption]

/-- A rule that cannot be used says nothing. -/
theorem calls_of_unusable {r : Rule} (h : r.Unusable) (f : SourceFile) (outcome : Except SyntaxFailure Unit) :
    r.calls f outcome = [] := by
  have htext : r.kind.regex?.isSome = true := by
    obtain ⟨pattern, hpattern, -⟩ := h
    rw [hpattern]
    rfl
  rw [calls_of_text htext, ofRule?_of_unusable h]
  rfl

end Rule

namespace Registry

/-- The rules that cannot be used, in order. -/
def unusable (g : Registry) : List Rule :=
  g.rules.filter fun r => r.Unusable

/-- The registry without the rules that cannot be used. -/
def usable (g : Registry) : Registry where
  rules := g.rules.filter fun r => ¬ r.Unusable
  distinct := List.Sublist.nodup (List.filter_sublist.map _) g.distinct

/-- The identifiers that are left are those of the rules that can be used. -/
theorem mem_ids_usable {g : Registry} {r : Rule} (hr : r ∈ g.rules) : r.id ∈ g.usable.ids ↔ ¬ r.Unusable := by
  constructor
  · intro h
    obtain ⟨r', hr', hid⟩ := List.mem_map.1 h
    obtain ⟨hmem, husable⟩ := List.mem_filter.1 hr'
    obtain rfl : r' = r := eq_of_id hr hmem hid
    exact of_decide_eq_true husable
  · intro h
    exact List.mem_map_of_mem (List.mem_filter.2 ⟨hr, decide_eq_true h⟩)

/-- Taking out the rules that cannot be used is keeping the others. -/
theorem usable_eq_retain (g : Registry) : g.usable = g.retain g.usable.ids := by
  have hrules : g.usable.rules = (g.retain g.usable.ids).rules := by
    refine List.filter_congr fun r hr => ?_
    rw [List.contains_eq_mem, decide_eq_decide, mem_ids_usable hr]
  exact (Registry.mk.injEq ..).mpr hrules

end Registry

namespace Checker

/-- What a scan lists are its rules that cannot be used, each once and in their order. -/
theorem invalidRules_ids (c : Checker) :
    c.invalidRules.map (·.ruleId) = c.registry.unusable.map (·.id) := by
  rw [invalidRules_eq, Registry.unusable]
  induction c.registry.rules with
  | nil => rfl
  | cons r rest ih =>
    by_cases h : r.Unusable
    · obtain ⟨i, hi⟩ := Option.isSome_iff_exists.1 (r.unusable_iff.1 h)
      rw [List.filterMap_cons_some hi, List.filter_cons_of_pos (by simpa using h), List.map_cons, List.map_cons, ih,
        Matcher.ruleId_of_leftOut? hi]
    · have hnone : Matcher.leftOut? r = none := by
        rw [r.unusable_iff, Option.not_isSome_iff_eq_none] at h
        exact h
      rw [List.filterMap_cons_none hnone, ih, List.filter_cons_of_neg (by simpa using h)]

/-- The checker says the same without the rules that cannot be used. -/
theorem callsFor_usable (c : Checker) (f : SourceFile) (outcome : Except SyntaxFailure Unit) :
    (c.retain c.registry.usable.ids).callsFor f outcome = c.callsFor f outcome := by
  rw [callsFor_retain, List.filter_eq_self]
  intro call hcall
  obtain ⟨r, hr, hrule⟩ := exists_rule_of_mem_callsFor hcall
  have hsays : call ∈ r.calls f outcome := (mem_calls_iff hr).2 ⟨hcall, hrule⟩
  have husable : ¬ r.Unusable := fun h => List.ne_nil_of_mem hsays (Rule.calls_of_unusable h f outcome)
  simp [Collector.Call.concerns, hrule, (Registry.mem_ids_usable hr).2 husable]

/-- Checking bytes finds the same without the rules that cannot be used. -/
theorem checkBytes_usable (c : Checker) (root path : Path) (kind : FileKind) (bytes : List UInt8) :
    (c.retain c.registry.usable.ids).checkBytes root path kind bytes = c.checkBytes root path kind bytes := by
  rw [checkBytes_eq, checkBytes_eq, callsFor_usable]
  rfl

/-- Without the rules that cannot be used, nothing is left out. -/
theorem invalidRules_usable (c : Checker) : (c.retain c.registry.usable.ids).invalidRules = [] := by
  have hids := (c.retain c.registry.usable.ids).invalidRules_ids
  have hregistry : (c.retain c.registry.usable.ids).registry = c.registry.usable := c.registry.usable_eq_retain.symm
  rw [hregistry] at hids
  have hnone : c.registry.usable.unusable = [] := by simp [Registry.usable, Registry.unusable]
  rw [hnone] at hids
  exact List.map_eq_nil_iff.1 hids

end Checker

/-- A report says nothing about a rule: no issue is of the rule, and it neither passed nor failed. -/
def Report.SilentOn (r : Report) (id : String) : Prop :=
  (∀ i ∈ r.issues, i.ruleId ≠ id) ∧ id ∉ r.passed ∧ id ∉ r.failed

namespace Scan

/-- What becomes of a file is the same without the rules that cannot be used. -/
theorem checkRead_usable (s : Scan) (c : Candidate) (read : Except FileError (List UInt8)) :
    (s.retain s.registry.usable.ids).checkRead c read = s.checkRead c read := by
  cases read with
  | ok bytes => exact congrArg FileOutcome.checked (s.checker.checkBytes_usable s.root c.path c.kind bytes)
  | error e => rfl

/-- The report on some files differs in the rules and in the list of those left out only. -/
theorem reportOn_usable (s : Scan) (now now' : Timestamp) (looked : Looked) :
    (s.retain s.registry.usable.ids).reportOn now' looked =
      { s.reportOn now looked with timestamp := now', rules := s.registry.usable.rules, invalidRules := [] } := by
  have htally : (s.retain s.registry.usable.ids).tallyOf looked = s.tallyOf looked := by
    rw [tallyOf, tallyOf]
    congr 2
    funext file
    exact s.checkRead_usable file.1 file.2
  have hrules : (s.retain s.registry.usable.ids).registry.rules = s.registry.usable.rules :=
    congrArg Registry.rules s.registry.usable_eq_retain.symm
  have hinvalid : (s.retain s.registry.usable.ids).checker.invalidRules = [] := s.checker.invalidRules_usable
  rw [reportOn, htally, report, hrules, hinvalid]
  rfl

/-- A run ends the same without the rules that cannot be used, with the same report but for the rules and the list of those
left out. -/
theorem run_usable (s : Scan) (files : FileTree) (now now' : Timestamp) {order order' : Nat → List Nat}
    (h : EachOnce order) (h' : EachOnce order') :
    (s.retain s.registry.usable.ids).run files now' order' =
      (s.run files now order).map fun r =>
        { r with timestamp := now', rules := s.registry.usable.rules, invalidRules := [] } := by
  have hwalker : (s.retain s.registry.usable.ids).walker = s.walker := rfl
  rw [run_eq_reportOn _ now' files h', run_eq_reportOn s now files h, hwalker]
  cases (s.walker.walk files).mapM id with
  | error e => rfl
  | ok candidates => exact congrArg Except.ok (s.reportOn_usable now now' _)

/-- The report of a run says nothing about the rules that cannot be used. -/
theorem silentOn_unusable {s : Scan} {files : FileTree} {now : Timestamp} {order : Nat → List Nat} {r : Report}
    (h : EachOnce order) (hr : s.run files now order = .ok r) {rule : Rule} (hrule : rule ∈ s.registry.rules)
    (hunusable : rule.Unusable) : r.SilentOn rule.id := by
  -- What the report says about the rules that can be used is the report without the others, which has all that it says.
  have hboth := (s.run_retain s.registry.usable.ids files now now h h).symm.trans (s.run_usable files now now h h)
  rw [hr] at hboth
  have hsame := Except.ok.inj hboth
  have hissues : r.issues.filter (fun i => s.registry.usable.ids.contains i.ruleId) = r.issues :=
    congrArg Report.issues hsame
  have hpassed : r.passed.filter s.registry.usable.ids.contains = r.passed := congrArg Report.passed hsame
  have hfailed : r.failed.filter s.registry.usable.ids.contains = r.failed := congrArg Report.failed hsame
  have hleft : rule.id ∉ s.registry.usable.ids := fun hmem => (Registry.mem_ids_usable hrule).1 hmem hunusable
  refine ⟨fun i hi hid => hleft ?_, fun hmem => hleft ?_, fun hmem => hleft ?_⟩
  · rw [← hid]
    exact List.contains_iff_mem.1 (List.filter_eq_self.1 hissues i hi)
  · exact List.contains_iff_mem.1 (List.filter_eq_self.1 hpassed _ hmem)
  · exact List.contains_iff_mem.1 (List.filter_eq_self.1 hfailed _ hmem)

end Scan

namespace ScanPlan

/-- Making a plan ready without the rules that cannot be used, or taking them out of the scan that is ready. -/
theorem prepare_usable (p : ScanPlan) (here : Path) :
    { p with registry := p.registry.usable }.prepare here =
      (p.prepare here).map fun s => s.retain p.registry.usable.ids :=
  (congrArg (fun g => { p with registry := g }.prepare here) p.registry.usable_eq_retain).trans
    (p.prepare_retain here p.registry.usable.ids)

/-- Rules that cannot be used are isolated. They do not keep a plan from being made ready, which only its globs may do. The
scan lists exactly these rules, each once and in their order, and so does its report, which says nothing else about them: no
issue is theirs, and they neither pass nor fail. The scan without them ends the same, and its report is the same in all but
the time, the list of the rules and the list of those left out. -/
theorem report_isolated (p : ScanPlan) (here : Path) (files : FileTree) (now now' : Timestamp) {order order' : Nat → List Nat}
    (h : EachOnce order) (h' : EachOnce order') :
    ((∃ s, p.prepare here = .ok s) ↔ ∀ text ∈ p.excluded, ∃ glob, Glob.parse text = .ok glob) ∧
    (∀ s, p.prepare here = .ok s →
      s.checker.invalidRules.map (·.ruleId) = p.registry.unusable.map (·.id) ∧
      (s.checker.invalidRules.map (·.ruleId)).Nodup) ∧
    (∀ r, p.report here files now order = .ok r →
      r.invalidRules.map (·.ruleId) = p.registry.unusable.map (·.id) ∧
      ∀ rule ∈ p.registry.unusable, r.SilentOn rule.id) ∧
    { p with registry := p.registry.usable }.report here files now' order' =
      (p.report here files now order).map fun r =>
        { r with timestamp := now', rules := p.registry.usable.rules, invalidRules := [] } := by
  have hready : ∀ s, p.prepare here = .ok s → s.registry = p.registry := by
    intro s hs
    exact congrArg Checker.registry (checker_of_prepare hs)
  have hlisted : ∀ s, p.prepare here = .ok s →
      s.checker.invalidRules.map (·.ruleId) = p.registry.unusable.map (·.id) := by
    intro s hs
    rw [← hready s hs]
    exact s.checker.invalidRules_ids
  refine ⟨exists_prepare_iff, fun s hs => ⟨hlisted s hs, ?_⟩, fun r hr => ?_, ?_⟩
  · rw [hlisted s hs]
    exact List.Sublist.nodup (List.filter_sublist.map _) p.registry.distinct
  · obtain ⟨s, candidates, hs, -, rfl⟩ := reportOn_of_report h hr
    refine ⟨hlisted s hs, fun rule hrule => ?_⟩
    obtain ⟨hmem, hunusable⟩ := List.mem_filter.1 hrule
    rw [report, hs] at hr
    exact Scan.silentOn_unusable h hr (hready s hs ▸ hmem) (of_decide_eq_true hunusable)
  · unfold report
    rw [prepare_usable]
    cases hs : p.prepare here with
    | error e => rfl
    | ok s =>
      rw [← hready s hs]
      exact s.run_usable files now now' h h'

/-- A plan with two rules that cannot be used, each before one that can. -/
def mixedPlan : ScanPlan where
  root := some ⟨"/p"⟩
  registry :=
    { rules :=
        [{ id := "open", name := "Open", kind := .pattern "(", fileKinds := [.go], message := "never" },
          { id := "package", name := "Package", kind := .pattern "p", fileKinds := [.go], message := "old" },
          { id := "empty", name := "Empty", kind := .importRequirement "" "fmt", fileKinds := [.go], message := "never" },
          { id := "syntax", name := "Syntax", kind := .syntaxCheck, fileKinds := [.go], message := "wrong" }]
      distinct := by decide }
  parser := .refuseAll ⟨1, 1, "no"⟩
  workers := 2

theorem unusable_mixed : mixedPlan.registry.unusable.map (·.id) = ["open", "empty"] := by
  decide +kernel

/-- The scan lists the two rules, says nothing about them, and ends the same without them. -/
theorem report_isolated_mixed :
    (EachOnce fun n => (List.range n).reverse) ∧ EachOnce List.range ∧
    ∃ s r, mixedPlan.prepare ⟨"/"⟩ = .ok s ∧ s.checker.invalidRules.map (·.ruleId) = ["open", "empty"] ∧
      mixedPlan.report ⟨"/"⟩ (Scan.sampleTree (.directory [])) default (fun n => (List.range n).reverse) = .ok r ∧
      r.SilentOn "open" ∧ r.SilentOn "empty" ∧
      { mixedPlan with registry := mixedPlan.registry.usable }.report ⟨"/"⟩ (Scan.sampleTree (.directory [])) default
          List.range =
        .ok { r with timestamp := default, rules := mixedPlan.registry.usable.rules, invalidRules := [] } := by
  obtain ⟨s, hprepare, hwalker⟩ : ∃ s, mixedPlan.prepare ⟨"/"⟩ = .ok s ∧ s.walker = Scan.sampleScan.walker :=
    ⟨_, rfl, rfl⟩
  obtain ⟨r, hreport⟩ := exists_report_sample default eachOnce_reverse hprepare hwalker
  obtain ⟨-, hlisted, hreports, hwithout⟩ := report_isolated mixedPlan ⟨"/"⟩ (Scan.sampleTree (.directory [])) default
    default eachOnce_reverse eachOnce_range
  rw [hreport] at hwithout
  have hsilent : ∀ id ∈ ["open", "empty"], r.SilentOn id := by
    intro id hid
    rw [← unusable_mixed] at hid
    obtain ⟨rule, hrule, rfl⟩ := List.mem_map.1 hid
    exact (hreports r hreport).2 rule hrule
  exact ⟨eachOnce_reverse, eachOnce_range, s, r, hprepare, (hlisted s hprepare).1.trans unusable_mixed, hreport,
    hsilent "open" (by simp), hsilent "empty" (by simp), hwithout⟩

end ScanPlan

end ComponentAudit
