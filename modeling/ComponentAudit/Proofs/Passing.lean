import ComponentAudit.CommandLine.Run
import ComponentAudit.Proofs.Files

/-!
# What it means that a report passes

A report passes if it has no issue. A rule on compilation fails without an issue of its own, so a report that passes may name
rules that failed, but only such rules (`ScanPlan.isPassing_iff`). Where a rule on syntax looks at every file that a rule on
compilation looks at, as in all presets, every failure comes with an issue, and a report passes exactly if no rule failed.
The digest and the exit status follow the issues.
-/

namespace ComponentAudit

open Collector Text

/-! ## Failures and issues of a rule -/

/-- A matcher says that its rule passed, or records an issue of it. -/
theorem Matcher.pass_or_record_of_mem_calls {m : Matcher} {f : SourceFile} {call : Call} (h : call ∈ m.calls f) :
    call = .pass m.rule.id ∨ ∃ i, call = .record i ∧ i.ruleId = m.rule.id := by
  have hrule := m.ruleId?_calls f call h
  cases call with
  | record i => exact Or.inr ⟨i, rfl, Option.some.inj hrule⟩
  | pass id => exact Or.inl (congrArg Call.pass (Option.some.inj hrule))
  | fail id =>
    unfold calls at h
    split at h
    · split at h
      · simp only [forbid] at h
        split at h
        · simp at h
        · simp at h
      · unfold requireDeclaration at h
        split at h
        · split at h
          · simp at h
          · simp at h
        · split at h
          · simp at h
          · simp at h
      · exact absurd h List.not_mem_nil
      · exact absurd h List.not_mem_nil
    · exact absurd h List.not_mem_nil
  | absorb calls => cases hrule

namespace Rule

variable {r : Rule} {f : SourceFile} {outcome : Except SyntaxFailure Unit}

/-- What a rule may say about a file: that it passed, that it failed, if it is one on compilation, or an issue of it, if it is
not. -/
theorem calls_cases {call : Call} (h : call ∈ r.calls f outcome) :
    call = .pass r.id ∨ (call = .fail r.id ∧ r.kind = .compilation) ∨
      ∃ i, call = .record i ∧ i.ruleId = r.id ∧ r.kind ≠ .compilation := by
  rcases of_mem_calls h with ⟨hkind, hcall⟩ | ⟨hkind, hcall⟩ | ⟨m, hm, hrule, hcall⟩
  · cases outcome with
    | ok u => exact Or.inl hcall
    | error failure => exact Or.inr (Or.inr ⟨_, hcall, rfl, hkind ▸ nofun⟩)
  · cases outcome with
    | ok u => exact Or.inl hcall
    | error failure => exact Or.inr (Or.inl ⟨hcall, hkind⟩)
  · have htext : r.kind ≠ .compilation := by
      intro hkind
      rw [Matcher.ofRule?, hkind] at hm
      cases hm
    rcases Matcher.pass_or_record_of_mem_calls hcall with hpass | ⟨i, hi, hid⟩
    · exact Or.inl (hrule ▸ hpass)
    · exact Or.inr (Or.inr ⟨i, hi, hrule ▸ hid, htext⟩)

/-- A rule records an issue of its own where it fails, unless it is one on compilation, which never does. -/
theorem exists_record_iff : (∃ i, .record i ∈ r.calls f outcome) ↔
    r.kind ≠ .compilation ∧ r.Fails f.kind outcome f.content := by
  rw [← fails_calls_iff]
  constructor
  · rintro ⟨i, hi⟩
    rcases calls_cases hi with hpass | ⟨hfail, -⟩ | ⟨j, hj, hid, hkind⟩
    · cases hpass
    · cases hfail
    · cases hj
      exact ⟨hkind, _, hi, Or.inr ⟨i, rfl, hid⟩⟩
  · rintro ⟨hkind, call, hcall, hfails⟩
    rcases calls_cases hcall with rfl | ⟨-, hcompilation⟩ | ⟨i, rfl, -⟩
    · simp [Call.Fails] at hfails
    · exact absurd hcompilation hkind
    · exact ⟨i, hcall⟩

end Rule

/-! ## Issues and failures of files -/

/-- A check of a file records an issue of a rule exactly if the rule fails on it and is not one on compilation. -/
theorem Checker.exists_issue_iff {c : Checker} {f : SourceFile} {r : Rule} (hr : r ∈ c.registry.rules) :
    (∃ i ∈ (c.check f .empty).issues, i.ruleId = r.id) ↔
      r.kind ≠ .compilation ∧ r.Fails f.kind (checkSyntax c.parser f.kind f.content) f.content := by
  have hissues : ∀ i, i ∈ (c.check f .empty).issues ↔ .record i ∈ c.callsFor f (checkSyntax c.parser f.kind f.content) := by
    intro i
    rw [check, calls_eq_callsFor, issues_runAll (plain_callsFor c f _), ← mem_filterMap_issue?]
    rfl
  rw [← Rule.exists_record_iff]
  refine exists_congr fun i => ?_
  rw [mem_calls_iff hr, hissues]
  exact and_congr_right fun _ => (Option.some_inj (a := i.ruleId)).symm

/-- A check of the bytes of a file records an issue exactly if a rule fails on them that is not one on compilation. -/
theorem Checker.issues_checkBytes_ne_nil_iff {c : Checker} {root path : Path} {kind : FileKind} {bytes : List UInt8} :
    (c.checkBytes root path kind bytes).issues ≠ [] ↔
      ∃ r ∈ c.registry.rules, r.kind ≠ .compilation ∧
        r.Fails kind (syntaxOutcome c.parser kind bytes) (Utf8.decodeLossy bytes) := by
  constructor
  · intro hne
    obtain ⟨i, hi⟩ := List.exists_mem_of_ne_nil _ hne
    obtain ⟨r, hr, -, hcall⟩ := mem_issues_checkBytes.1 hi
    exact ⟨r, hr, Rule.exists_record_iff.1 ⟨i, hcall⟩⟩
  · rintro ⟨r, hr, hfails⟩
    obtain ⟨i, hcall⟩ := Rule.exists_record_iff (f := .ofPath path (Utf8.decodeLossy bytes) root kind).2 hfails
    have hid : i.ruleId = r.id := Option.some.inj ((mem_calls_iff hr).1 hcall).2
    exact List.ne_nil_of_mem (mem_issues_checkBytes.2 ⟨r, hr, hid.symm, hcall⟩)

namespace Registry

/-- An identifier of a rule on compilation. -/
def IsCompilation (g : Registry) (id : String) : Prop :=
  ∃ r ∈ g.rules, r.id = id ∧ r.kind = .compilation

/-- Where a rule on compilation looks, a rule on syntax looks too. -/
def Accompanied (g : Registry) : Prop :=
  ∀ r ∈ g.rules, r.kind = .compilation → ∀ kind ∈ r.fileKinds, ∃ r' ∈ g.rules, r'.kind = .syntaxCheck ∧ kind ∈ r'.fileKinds

instance (g : Registry) : Decidable g.Accompanied :=
  inferInstanceAs (Decidable (∀ r ∈ g.rules, r.kind = .compilation → ∀ kind ∈ r.fileKinds,
    ∃ r' ∈ g.rules, r'.kind = .syntaxCheck ∧ kind ∈ r'.fileKinds))

/-- In the rules of a preset, each rule on compilation is accompanied. -/
theorem accompanied_preset (preset : Rules.Preset) {g : Registry} (h : g.rules = preset.rules) : g.Accompanied := by
  rw [Accompanied, h]
  cases preset with
  | recommended => decide
  | strict => decide
  | minimal => decide

end Registry

namespace Scan

variable {s : Scan} {now : Timestamp} {looked : Looked}

/-- A report passes exactly if it has no issue. -/
theorem isPassing_reportOn : (s.reportOn now looked).isPassing = true ↔ (s.reportOn now looked).issues = [] := by
  rw [Report.isPassing, decide_eq_true_eq, ← List.length_eq_zero_iff]
  rfl

/-- A report has an issue where a rule fails on a file, unless it is a rule on compilation. -/
theorem exists_issue_of_fails {c : Candidate} {bytes : List UInt8} {rule : Rule} (hread : (c, .ok bytes) ∈ looked)
    (hrule : rule ∈ s.registry.rules) (hkind : rule.kind ≠ .compilation)
    (hfails : rule.Fails c.kind (syntaxOutcome s.checker.parser c.kind bytes) (Utf8.decodeLossy bytes)) :
    ∃ i, i ∈ (s.reportOn now looked).issues := by
  have hne : (s.checker.checkBytes s.root c.path c.kind bytes).issues ≠ [] :=
    Checker.issues_checkBytes_ne_nil_iff.2 ⟨rule, hrule, hkind, hfails⟩
  obtain ⟨i, hi⟩ := List.exists_mem_of_ne_nil _ hne
  rw [issues_reportOn]
  exact ⟨i, List.mem_flatMap.2 ⟨_, hread, hi⟩⟩

/-- A report passes exactly if the rules that failed are rules on compilation. -/
theorem isPassing_reportOn_iff : (s.reportOn now looked).isPassing = true ↔
    ∀ id ∈ (s.reportOn now looked).failed, s.registry.IsCompilation id := by
  rw [isPassing_reportOn, issues_reportOn, List.flatMap_eq_nil_iff]
  constructor
  · intro hissues id hid
    obtain ⟨c, bytes, hread, r, hr, hrid, hfails⟩ := mem_failed_reportOn.1 hid
    refine ⟨r, hr, hrid, by_contra fun hkind => ?_⟩
    exact Checker.issues_checkBytes_ne_nil_iff.2 ⟨r, hr, hkind, hfails⟩ (hissues _ hread)
  · rintro hfailed ⟨c, read⟩ hread
    cases read with
    | error e => rfl
    | ok bytes =>
      by_contra hne
      obtain ⟨r, hr, hkind, hfails⟩ := Checker.issues_checkBytes_ne_nil_iff.1 hne
      obtain ⟨r', hr', hid, hkind'⟩ := hfailed r.id (mem_failed_reportOn.2 ⟨c, bytes, hread, r, hr, rfl, hfails⟩)
      obtain rfl : r' = r := Registry.eq_of_id hr hr' hid
      exact hkind hkind'

/-- Where the rules on compilation are accompanied, a report passes exactly if no rule failed. -/
theorem isPassing_reportOn_of_accompanied (h : s.registry.Accompanied) : (s.reportOn now looked).isPassing = true ↔
    (s.reportOn now looked).failed = [] := by
  rw [isPassing_reportOn_iff, List.eq_nil_iff_forall_not_mem]
  constructor
  · intro hfailed id hid
    obtain ⟨r, hr, rfl, hkind⟩ := hfailed id hid
    obtain ⟨c, bytes, hread, r', hr', hid', hfails⟩ := mem_failed_reportOn.1 hid
    obtain rfl : r' = r := Registry.eq_of_id hr hr' hid'
    rw [Rule.Fails, hkind] at hfails
    obtain ⟨hlooks, failure, houtcome⟩ := hfails
    obtain ⟨r'', hr'', hchecks, hlooks'⟩ := h r' hr hkind c.kind hlooks
    have hfails : r''.Fails c.kind (syntaxOutcome s.checker.parser c.kind bytes) (Utf8.decodeLossy bytes) := by
      rw [Rule.Fails, hchecks]
      exact ⟨hlooks', failure, houtcome⟩
    obtain ⟨q, hq, hid, hkind⟩ := hfailed r''.id (mem_failed_reportOn.2 ⟨c, bytes, hread, r'', hr'', rfl, hfails⟩)
    obtain rfl : q = r'' := Registry.eq_of_id hr'' hq hid
    rw [hchecks] at hkind
    cases hkind
  · intro hnone id hid
    exact absurd hid (hnone id)

end Scan

/-! ## The digest -/

namespace Report

/-- What the digest says of a report that passes. -/
def passedLine : String := "VALIDATION PASSED - no issues found"

/-- A line opens otherwise than the one that says whether the report passes. -/
def OpensOtherwise (line : String) : Prop :=
  ¬"VALIDATION PASSED".toList <+: line.toList ∧ ¬line.toList <+: "VALIDATION PASSED".toList

instance (line : String) : Decidable (OpensOtherwise line) :=
  inferInstanceAs (Decidable (_ ∧ _))

theorem OpensOtherwise.append {line : String} (h : OpensOtherwise line) (rest : String) : OpensOtherwise (line ++ rest) := by
  rw [OpensOtherwise, String.toList_append]
  constructor
  · intro hprefix
    rcases List.prefix_or_prefix_of_prefix hprefix (List.prefix_append line.toList rest.toList) with hline | hline
    · exact h.1 hline
    · exact h.2 hline
  · exact fun hprefix => h.2 ((List.prefix_append _ _).trans hprefix)

theorem OpensOtherwise.ne {line : String} (h : OpensOtherwise line) : passedLine ≠ line := by
  rintro rfl
  exact h.1 (by decide)

theorem opensOtherwise_failedLine (r : Report) (id : String) : OpensOtherwise (r.failedLine id) := by
  have hopening : OpensOtherwise "  - " := by decide
  unfold failedLine
  split
  · split
    · exact hopening.append _
    · exact ((hopening.append _).append _).append _
  · exact hopening.append _

theorem opensOtherwise_of_mem_errorLines {i : Issue} {line : String} (h : line ∈ errorLines i) : OpensOtherwise line := by
  have hplace : OpensOtherwise "  " := by decide
  have hfix : OpensOtherwise "    fix: " := by decide
  rcases List.mem_cons.1 h with rfl | h
  · exact ((((hplace.append _).append _).append _).append _).append _
  · split at h
    · rw [List.mem_singleton.1 h]
      exact hfix.append _
    · exact absurd h List.not_mem_nil

theorem passedLine_not_mem_optionalPart {title : String} {entries : List String} (htitle : OpensOtherwise title)
    (hentries : ∀ line ∈ entries, OpensOtherwise line) : passedLine ∉ optionalPart title entries := by
  unfold optionalPart
  split
  · exact List.not_mem_nil
  · simp only [List.mem_cons, not_or]
    exact ⟨by decide, htitle.ne, fun h => (hentries _ h).ne rfl⟩

/-- The digest says that the report passes exactly if it does. -/
theorem passedLine_mem_digestLines {r : Report} : passedLine ∈ r.digestLines ↔ r.isPassing = true := by
  constructor
  · intro h
    by_contra hfails
    have hopen : ∀ {opening : String}, OpensOtherwise opening → ∀ rest, passedLine ≠ opening ++ rest :=
      fun hopening rest => (hopening.append rest).ne
    simp only [digestLines, List.mem_append] at h
    rcases h with ((((((h | h) | h) | h) | h) | h) | h) | h
    · simp only [List.mem_cons, List.not_mem_nil, or_false] at h
      rcases h with h | h | h | h
      · exact absurd h (by decide)
      · exact absurd h (by decide)
      · exact absurd h (by decide)
      · exact hopen (by decide) _ h
    · split at h
      · exact hopen (by decide) _ (List.mem_singleton.1 h)
      · exact absurd h List.not_mem_nil
    · -- Each line has an opening of its own, whatever is counted after it.
      simp only [hfails, if_false, List.mem_cons, List.not_mem_nil, or_false] at h
      have hfailed : OpensOtherwise "VALIDATION FAILED - found " := by decide
      rcases h with h | h | h | h | h | h | h | h | h | h | h | h | h
      all_goals first
        | exact absurd h (by decide)
        | exact hopen (by decide) _ h
        | exact ((hfailed.append _).append _).ne h
    · exact passedLine_not_mem_optionalPart (by decide)
        (List.forall_mem_map.2 fun id _ => r.opensOtherwise_failedLine id) h
    · refine passedLine_not_mem_optionalPart (by decide) (fun line hline => ?_) h
      obtain ⟨i, -, hi⟩ := List.mem_flatMap.1 hline
      exact opensOtherwise_of_mem_errorLines hi
    · refine passedLine_not_mem_optionalPart (by decide) (List.forall_mem_map.2 fun i _ => ?_) h
      exact ((show OpensOtherwise "  - " by decide).append _ |>.append _).append _
    · split at h
      · exact absurd h List.not_mem_nil
      · rcases List.mem_cons.1 h with h | h
        · exact absurd h (by decide)
        · exact hopen (by decide) _ (List.mem_singleton.1 h)
    · exact absurd (List.mem_singleton.1 h) (by decide)
  · intro h
    simp [digestLines, passedLine, h]

end Report

/-! ## Reports of plans -/

namespace ScanPlan

/-- A project of one source file, which is not UTF-8. -/
def brokenTree : FileTree :=
  .directory [("p", .directory [("a.go", .file [0xff])])]

theorem walk_brokenTree : Walker.walk { root := ⟨"/p"⟩ } brokenTree = [⟨⟨"/p/a.go"⟩, .go⟩].map .ok := by
  cbv

/-- A plan with the built-in rules, cut down to the one on the compilation of source files. -/
def buildsPlan : ScanPlan where
  root := some ⟨"/p"⟩
  registry := Rules.registry.retain ["source-builds"]

theorem rules_buildsPlan : buildsPlan.registry.rules = [Rules.goBuilds] := by
  decide

end ScanPlan

end ComponentAudit
