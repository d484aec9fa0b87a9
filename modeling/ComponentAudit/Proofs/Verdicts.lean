import ComponentAudit.Proofs.Checking
import ComponentAudit.Proofs.Lines
import ComponentAudit.Proofs.Matching
import ComponentAudit.Proofs.Workers

/-!
# The verdicts of a report

`Rule.Fails` and `Rule.Passes` say what a rule makes of a file, without any calls on a collector. A check of the bytes of a
file notes that and nothing else (`Checker.mem_failed_checkBytes`, `Checker.mem_passed_checkBytes`), and what is noted of the
files of a scan is put together to the verdicts of its report (`Scan.verdicts`); these are the files that a run looks at
(`Scan.report_of_run`).
-/

namespace ComponentAudit

open Collector Pattern Text

/-- A rule fails on a file of a kind, for an outcome of its syntax check and its text. Rules on syntax and compilation fail
with the syntax check, a forbidden pattern fails where a line matches, and an import requirement where the text matches and
does not hold the declaration. A rule whose pattern cannot be used never fails. -/
def Rule.Fails (r : Rule) (kind : FileKind) (outcome : Except SyntaxFailure Unit) (text : List Char) : Prop :=
  kind ∈ r.fileKinds ∧
    match r.kind with
    | .syntaxCheck | .compilation => ∃ failure, outcome = .error failure
    | .pattern pattern => ∃ regex, Matcher.compile pattern = .ok regex ∧ ∃ line ∈ lines text, regex.Matches line
    | .importRequirement pattern declaration => ∃ regex, Matcher.compile pattern = .ok regex ∧
        regex.Matches text ∧ ¬declaration.toList <:+: text

/-- A rule passes on a file of a kind. Where a rule on text finds nothing to look at, it passes only if it is required. -/
def Rule.Passes (r : Rule) (kind : FileKind) (outcome : Except SyntaxFailure Unit) (text : List Char) : Prop :=
  kind ∈ r.fileKinds ∧
    match r.kind with
    | .syntaxCheck | .compilation => outcome = .ok ()
    | .pattern pattern => ∃ regex, Matcher.compile pattern = .ok regex ∧
        (∀ line ∈ lines text, ¬regex.Matches line) ∧ r.required = true
    | .importRequirement pattern declaration => ∃ regex, Matcher.compile pattern = .ok regex ∧
        (regex.Matches text ∧ declaration.toList <:+: text ∨ ¬regex.Matches text ∧ r.required = true)

/-- The rule of an identifier fails on the bytes of a file. -/
def Registry.FailsOn (g : Registry) (id : String) (parser : SourceParser) (kind : FileKind) (bytes : List UInt8) : Prop :=
  ∃ r ∈ g.rules, r.id = id ∧ r.Fails kind (syntaxOutcome parser kind bytes) (Utf8.decodeLossy bytes)

/-- The rule of an identifier passes on the bytes of a file. -/
def Registry.PassesOn (g : Registry) (id : String) (parser : SourceParser) (kind : FileKind) (bytes : List UInt8) : Prop :=
  ∃ r ∈ g.rules, r.id = id ∧ r.Passes kind (syntaxOutcome parser kind bytes) (Utf8.decodeLossy bytes)

/-! ## What one rule says -/

namespace Matcher

/-- A forbidden pattern has no issue exactly if no line matches. -/
theorem forbidden_eq_nil_iff {m : Matcher} {f : SourceFile} :
    m.forbidden f = [] ↔ ∀ line ∈ lines f.content, ¬m.regex.Matches line := by
  have hlines : lines f.content = f.lines.map (·.text) := (map_text_numberLines 1 0 _).symm
  rw [forbidden, List.filterMap_eq_nil_iff, hlines, List.forall_mem_map]
  simp only [Option.map_eq_none_iff, Regex.find?_eq_none_iff_not_matches]

/-- A forbidden pattern fails exactly if a line matches. -/
theorem fails_forbid_iff {m : Matcher} {f : SourceFile} :
    (∃ call ∈ m.forbid f, call.Fails m.rule.id) ↔ ∃ line ∈ lines f.content, m.regex.Matches line := by
  have hnil := not_congr (forbidden_eq_nil_iff (m := m) (f := f))
  simp only [not_forall, not_not, exists_prop] at hnil
  rw [← hnil]
  constructor
  · rintro ⟨call, hcall, hfails⟩ hissues
    simp only [forbid, hissues] at hcall
    split at hcall
    · rw [List.mem_singleton.1 hcall] at hfails
      simp [Call.Fails] at hfails
    · exact absurd hcall List.not_mem_nil
  · intro hissues
    obtain ⟨i, hi⟩ := List.exists_mem_of_ne_nil _ hissues
    have hrecord : .record i ∈ m.forbid f := by
      simp only [forbid]
      rw [if_neg (by simp [hissues])]
      exact List.mem_map_of_mem hi
    have hrule := ruleId?_forbid m f _ hrecord
    exact ⟨.record i, hrecord, Or.inr ⟨i, rfl, Option.some.inj hrule⟩⟩

/-- A forbidden pattern passes exactly if no line matches and its rule is required. -/
theorem pass_mem_forbid_iff {m : Matcher} {f : SourceFile} :
    .pass m.rule.id ∈ m.forbid f ↔ (∀ line ∈ lines f.content, ¬m.regex.Matches line) ∧ m.rule.required = true := by
  rw [← forbidden_eq_nil_iff]
  simp only [forbid]
  split
  · rename_i h
    simpa using h
  · rename_i h
    have hnot : ¬(m.forbidden f = [] ∧ m.rule.required = true) := by simpa using h
    simp [hnot]

/-- An import requirement fails exactly if the text matches and does not hold the declaration. -/
theorem fails_requireDeclaration_iff {m : Matcher} {declaration : String} {f : SourceFile} :
    (∃ call ∈ m.requireDeclaration declaration f, call.Fails m.rule.id) ↔
      m.regex.Matches f.content ∧ ¬declaration.toList <:+: f.content := by
  rw [← Regex.isSome_find?_iff, ← Text.contains_iff, requireDeclaration]
  cases m.regex.find? f.content with
  | none =>
    cases m.rule.required with
    | true => simp [Call.Fails]
    | false => simp
  | some usage =>
    cases Text.contains declaration.toList f.content with
    | true => simp [Call.Fails]
    | false => simp [Call.Fails, issue, Issue.ofRule]

/-- An import requirement passes exactly if the text matches and holds the declaration, or does not match and the rule is
required. -/
theorem pass_mem_requireDeclaration_iff {m : Matcher} {declaration : String} {f : SourceFile} :
    .pass m.rule.id ∈ m.requireDeclaration declaration f ↔
      m.regex.Matches f.content ∧ declaration.toList <:+: f.content ∨
        ¬m.regex.Matches f.content ∧ m.rule.required = true := by
  rw [← Regex.isSome_find?_iff, ← Text.contains_iff, requireDeclaration]
  cases m.regex.find? f.content with
  | none =>
    cases m.rule.required with
    | true => simp
    | false => simp
  | some usage =>
    cases Text.contains declaration.toList f.content with
    | true => simp
    | false => simp

end Matcher

namespace Rule

variable {r : Rule} {f : SourceFile} {outcome : Except SyntaxFailure Unit}

/-- What a rule says of a file says that it failed exactly if it fails on the file. -/
theorem fails_calls_iff : (∃ call ∈ r.calls f outcome, call.Fails r.id) ↔ r.Fails f.kind outcome f.content := by
  have happlies : r.appliesTo f.kind = true ↔ f.kind ∈ r.fileKinds := List.contains_iff_mem
  rw [calls, Fails, ← happlies]
  by_cases ha : r.appliesTo f.kind = true
  · rw [if_pos ha, ha]
    cases r.kind with
    | syntaxCheck =>
      cases outcome with
      | ok u => simp [Checker.syntaxCall, Call.Fails]
      | error failure => simp [Checker.syntaxCall, Call.Fails, Issue.ofRule]
    | compilation =>
      cases outcome with
      | ok u => simp [Checker.compilationCall, Call.Fails]
      | error failure => simp [Checker.compilationCall, Call.Fails]
    | pattern pattern =>
      cases hc : Matcher.compile pattern with
      | ok regex => simp [hc, Matcher.fails_forbid_iff (m := ⟨r, regex⟩)]
      | error reason => simp [hc]
    | importRequirement pattern declaration =>
      cases hc : Matcher.compile pattern with
      | ok regex => simp [hc, Matcher.fails_requireDeclaration_iff (m := ⟨r, regex⟩)]
      | error reason => simp [hc]
  · simp [ha]

/-- What a rule says of a file says that it passed exactly if it passes on the file. -/
theorem pass_mem_calls_iff : .pass r.id ∈ r.calls f outcome ↔ r.Passes f.kind outcome f.content := by
  have happlies : r.appliesTo f.kind = true ↔ f.kind ∈ r.fileKinds := List.contains_iff_mem
  rw [calls, Passes, ← happlies]
  by_cases ha : r.appliesTo f.kind = true
  · rw [if_pos ha, ha]
    cases r.kind with
    | syntaxCheck =>
      cases outcome with
      | ok u => simp [Checker.syntaxCall]
      | error failure => simp [Checker.syntaxCall]
    | compilation =>
      cases outcome with
      | ok u => simp [Checker.compilationCall]
      | error failure => simp [Checker.compilationCall]
    | pattern pattern =>
      cases hc : Matcher.compile pattern with
      | ok regex => simp [hc, Matcher.pass_mem_forbid_iff (m := ⟨r, regex⟩)]
      | error reason => simp [hc]
    | importRequirement pattern declaration =>
      cases hc : Matcher.compile pattern with
      | ok regex => simp [hc, Matcher.pass_mem_requireDeclaration_iff (m := ⟨r, regex⟩)]
      | error reason => simp [hc]
  · simp [ha]

end Rule

/-! ## What a check of a file notes -/

namespace Checker

variable {c : Checker} {root path : Path} {kind : FileKind} {bytes : List UInt8} {id : String}

/-- A check of the bytes of a file notes the failures of the rules that fail on them. -/
theorem mem_failed_checkBytes :
    id ∈ (c.checkBytes root path kind bytes).failed.ids ↔ c.registry.FailsOn id c.parser kind bytes := by
  rw [checkBytes_eq, mem_failed_runAll (plain_callsFor c _ _)]
  constructor
  · rintro (h | ⟨call, hcall, hfails⟩)
    · exact absurd h (IdSet.mem_empty id)
    · obtain ⟨r, hr, hrule⟩ := exists_rule_of_mem_callsFor hcall
      obtain rfl : r.id = id := by
        rcases hfails with rfl | ⟨i, rfl, rfl⟩
        · exact (Option.some.inj hrule).symm
        · exact (Option.some.inj hrule).symm
      exact ⟨r, hr, rfl, Rule.fails_calls_iff.1 ⟨call, (mem_calls_iff hr).2 ⟨hcall, hrule⟩, hfails⟩⟩
  · rintro ⟨r, hr, rfl, hfails⟩
    obtain ⟨call, hcall, hfails⟩ :=
      Rule.fails_calls_iff (f := .ofPath path (Utf8.decodeLossy bytes) root kind).2 hfails
    exact Or.inr ⟨call, ((mem_calls_iff hr).1 hcall).1, hfails⟩

/-- A check of the bytes of a file notes the passes of the rules that pass on them. -/
theorem mem_passed_checkBytes :
    id ∈ (c.checkBytes root path kind bytes).passed.ids ↔ c.registry.PassesOn id c.parser kind bytes := by
  rw [checkBytes_eq, mem_passed_runAll (plain_callsFor c _ _)]
  constructor
  · rintro (h | hcall)
    · exact absurd h (IdSet.mem_empty id)
    · obtain ⟨r, hr, hrule⟩ := exists_rule_of_mem_callsFor hcall
      obtain rfl : id = r.id := Option.some.inj hrule
      exact ⟨r, hr, rfl, Rule.pass_mem_calls_iff.1 ((mem_calls_iff hr).2 ⟨hcall, hrule⟩)⟩
  · rintro ⟨r, hr, rfl, hpasses⟩
    exact Or.inr ((mem_calls_iff hr).1 (Rule.pass_mem_calls_iff (f := .ofPath path (Utf8.decodeLossy bytes) root kind).2
      hpasses)).1

end Checker

/-! ## What a scan makes of it -/

namespace Tally

/-- The identifiers that a collector takes over when it absorbs another one are, after some files, those of the files. -/
theorem mem_foldl_add {ids : Collector → IdSet} (h : ∀ c d : Collector, ids (c.absorb d) = (ids c).union (ids d))
    (outcomes : List FileOutcome) (t : Tally) (id : String) :
    id ∈ (ids (outcomes.foldl add t).found).ids ↔
      id ∈ (ids t.found).ids ∨ ∃ found, .checked found ∈ outcomes ∧ id ∈ (ids found).ids := by
  induction outcomes generalizing t with
  | nil => simp
  | cons o rest ih =>
    rw [List.foldl_cons, ih]
    cases o with
    | checked found => simp [add, h, or_and_right, exists_or, or_assoc]
    | unreadable path => simp [add]

end Tally

namespace Scan

/-- What a scan looked at: candidates with their bytes, or with the reason why they cannot be read. -/
abbrev Looked := List (Candidate × Except FileError (List UInt8))

/-- What a scan knows after the files that it looked at. -/
def tallyOf (s : Scan) (looked : Looked) : Tally :=
  (looked.map fun (c, read) => s.checkRead c read).foldl Tally.add .empty

/-- The files that were checked are those that could be read. -/
theorem exists_checked_iff {s : Scan} {looked : Looked} {p : Collector → Prop} :
    (∃ found, .checked found ∈ (looked.map fun (c, read) => s.checkRead c read) ∧ p found) ↔
      ∃ c bytes, (c, .ok bytes) ∈ looked ∧ p (s.checker.checkBytes s.root c.path c.kind bytes) := by
  constructor
  · rintro ⟨found, hfound, hp⟩
    obtain ⟨⟨c, read⟩, hmem, hread⟩ := List.mem_map.1 hfound
    cases read with
    | ok bytes => exact ⟨c, bytes, hmem, FileOutcome.checked.inj hread ▸ hp⟩
    | error e => cases hread
  · rintro ⟨c, bytes, hmem, hp⟩
    exact ⟨_, List.mem_map.2 ⟨(c, .ok bytes), hmem, rfl⟩, hp⟩

/-- A run that comes to a report has looked at the candidates of the walk, and the report is about what it read of them. -/
theorem report_of_run {s : Scan} {files : FileTree} {now : Timestamp} {order : Nat → List Nat} {r : Report}
    (h : EachOnce order) (hr : s.run files now order = .ok r) :
    ∃ candidates : List Candidate, s.walker.walk files = candidates.map .ok ∧
      r = s.report now (s.tallyOf (candidates.map fun c => (c, files.read c.path))) := by
  rcases s.run_eq files now h with ⟨e, -, hrun⟩ | ⟨candidates, hwalk, hrun⟩
  · rw [hrun] at hr
    cases hr
  · rw [hrun] at hr
    refine ⟨candidates, hwalk, ?_⟩
    rw [tallyOf, List.map_map]
    exact (Except.ok.inj hr).symm

/-- The verdicts of a report, for any rules, parser, files and bytes. Each file is noted for a rule as a failure or a pass
exactly if the rule fails or passes on its bytes; a rule has failed exactly if it fails on some file, and it has passed
exactly if it passes on some file and fails on none. -/
theorem verdicts (s : Scan) (now : Timestamp) (looked : Looked) (id : String) :
    (∀ (c : Candidate) (bytes : List UInt8),
      (id ∈ (s.checker.checkBytes s.root c.path c.kind bytes).failed.ids ↔
        s.registry.FailsOn id s.checker.parser c.kind bytes) ∧
      (id ∈ (s.checker.checkBytes s.root c.path c.kind bytes).passed.ids ↔
        s.registry.PassesOn id s.checker.parser c.kind bytes)) ∧
    (id ∈ (s.report now (s.tallyOf looked)).failed ↔
      ∃ c bytes, (c, .ok bytes) ∈ looked ∧ s.registry.FailsOn id s.checker.parser c.kind bytes) ∧
    (id ∈ (s.report now (s.tallyOf looked)).passed ↔
      (∃ c bytes, (c, .ok bytes) ∈ looked ∧ s.registry.PassesOn id s.checker.parser c.kind bytes) ∧
        ¬∃ c bytes, (c, .ok bytes) ∈ looked ∧ s.registry.FailsOn id s.checker.parser c.kind bytes) := by
  have hfailed : id ∈ (s.tallyOf looked).found.failed.ids ↔
      ∃ c bytes, (c, .ok bytes) ∈ looked ∧ s.registry.FailsOn id s.checker.parser c.kind bytes := by
    have hnone : id ∉ Tally.empty.found.failed.ids := IdSet.mem_empty id
    rw [tallyOf, Tally.mem_foldl_add (fun _ _ => rfl), exists_checked_iff, or_iff_right hnone]
    simp only [Checker.mem_failed_checkBytes, registry]
  have hpassed : id ∈ (s.tallyOf looked).found.passed.ids ↔
      ∃ c bytes, (c, .ok bytes) ∈ looked ∧ s.registry.PassesOn id s.checker.parser c.kind bytes := by
    have hnone : id ∉ Tally.empty.found.passed.ids := IdSet.mem_empty id
    rw [tallyOf, Tally.mem_foldl_add (fun _ _ => rfl), exists_checked_iff, or_iff_right hnone]
    simp only [Checker.mem_passed_checkBytes, registry]
  refine ⟨fun c bytes => ⟨Checker.mem_failed_checkBytes, Checker.mem_passed_checkBytes⟩, hfailed, ?_⟩
  rw [report, Report.ofCollector, IdSet.mem_difference, hpassed, hfailed]

end Scan

end ComponentAudit
