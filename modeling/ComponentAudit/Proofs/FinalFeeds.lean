import ComponentAudit.Proofs.Isolating
import ComponentAudit.Proofs.Linewise

/-!
# A line feed at the end of a file

Lines stand between line feeds, so a line feed at the end of a text opens one more line, which is empty. A rule against a pattern
looks at that line as at any other: it says the same of a file with and without the line feed exactly if its expression does not
match the empty text (`Checker.check_concatFeed`).
-/

namespace ComponentAudit

open Collector Pattern Text

/-- A file with a line feed after it. -/
def SourceFile.concatFeed (f : SourceFile) : SourceFile :=
  { f with content := f.content ++ ['\n'] }

/-- The issue of a rule in the empty line that a line feed at the end of a file opens. -/
def Rule.issueBehind (r : Rule) (f : SourceFile) : Issue :=
  .ofRule r.id r.severity
    { file := f.relativePath, line := f.content.count '\n' + 2, column := 1, offset := byteLength f.content + 1 }
    r.message "" r.suggestedFix

namespace Matcher

/-- A match in an empty line has the place of the line. -/
theorem issueIn_nil (m : Matcher) (path : Path) (number offset : Nat) :
    m.issueIn path m.rule.suggestedFix ⟨number, offset, []⟩ =
      if m.regex.Matches [] then
        some (.ofRule m.rule.id m.rule.severity { file := path, line := number, column := 1, offset } m.rule.message ""
          m.rule.suggestedFix)
      else none := by
  rw [issueIn]
  cases hfind : m.regex.find? [] with
  | none => rw [if_neg (Regex.find?_eq_none_iff_not_matches.1 hfind), Option.map_none]
  | some found =>
    have hmatches : m.regex.Matches [] := Regex.isSome_find?_iff.1 (by rw [hfind, Option.isSome_some])
    rw [if_pos hmatches, Option.map_some, issueAt]
    simp only [List.take_nil, List.drop_nil]
    rfl

/-- A line feed at the end of a file adds the issue of the empty line to those of a forbidden pattern. -/
theorem forbidden_concatFeed (m : Matcher) (f : SourceFile) :
    m.forbidden f.concatFeed = m.forbidden f ++ if m.regex.Matches [] then [m.rule.issueBehind f] else [] := by
  have hlines : f.concatFeed.lines = f.lines ++ [⟨f.content.count '\n' + 2, byteLength f.content + 1, []⟩] :=
    numberedLines_append_cons f.content []
  have hpath : f.concatFeed.relativePath = f.relativePath := rfl
  rw [forbidden_eq, forbidden_eq, hlines, hpath, List.filterMap_append, List.filterMap_cons, issueIn_nil]
  split
  · rename_i h
    split at h
    · cases h
    · rename_i hnot
      rw [if_neg hnot, List.filterMap_nil]
  · rename_i i h
    split at h
    · rename_i hmatches
      cases h
      rw [if_pos hmatches, List.filterMap_nil]
      rfl
    · cases h

end Matcher

namespace Checker

variable {c : Checker} {r : Rule} {pattern : String} {regex : Regex}

/-- What a check makes of a rule against a pattern: the issues of its matcher, a failure where a line matches, and a pass where
none does and the rule is required. -/
theorem check_pattern (hr : r ∈ c.registry.rules) (hkind : r.kind = .pattern pattern)
    (hregex : Matcher.compile pattern = .ok regex) (f : SourceFile) :
    let found := c.check f .empty
    (found.issues.filter (fun i => i.ruleId = r.id) =
      if f.kind ∈ r.fileKinds then (Matcher.mk r regex).forbidden f else []) ∧
    (r.id ∈ found.failed.ids ↔ f.kind ∈ r.fileKinds ∧ ∃ line ∈ lines f.content, regex.Matches line) ∧
    (r.id ∈ found.passed.ids ↔
      f.kind ∈ r.fileKinds ∧ (∀ line ∈ lines f.content, ¬regex.Matches line) ∧ r.required = true) := by
  intro found
  have happlies : r.appliesTo f.kind = true ↔ f.kind ∈ r.fileKinds := List.contains_iff_mem
  have hfound : found = Collector.empty.runAll (c.callsFor f (checkSyntax c.parser f.kind f.content)) := by
    rw [← calls_eq_callsFor]
    rfl
  obtain ⟨hissues, hpassed, hfailed⟩ := runAll_callsFor hr f (checkSyntax c.parser f.kind f.content)
  rw [hfound, hissues, hpassed, hfailed, Rule.fails_calls_iff, Rule.pass_mem_calls_iff, Rule.Fails, Rule.Passes]
  simp only [hkind, hregex, Except.ok.injEq, exists_eq_left']
  refine ⟨?_, trivial, trivial⟩
  rw [Rule.calls]
  simp only [hkind, hregex, happlies]
  split
  · exact Matcher.filterMap_issue?_forbid _ f
  · rfl

/-- A line feed at the end of a file opens one more line, and a rule against a pattern looks at it as at any other: where its
expression matches the empty text there is an issue in it, at the end of the file, and the rule fails. All else it says of the
file stays, so it says the same with and without the line feed exactly if its expression does not match the empty text. -/
theorem check_concatFeed (hr : r ∈ c.registry.rules) (hkind : r.kind = .pattern pattern)
    (hregex : Matcher.compile pattern = .ok regex) (f : SourceFile) :
    let opens := f.kind ∈ r.fileKinds ∧ regex.Matches []
    let issues := fun found : Collector => found.issues.filter fun i => i.ruleId = r.id
    let before := c.check f .empty
    let after := c.check f.concatFeed .empty
    (issues after = issues before ++ if opens then [r.issueBehind f] else []) ∧
    (r.id ∈ after.failed.ids ↔ r.id ∈ before.failed.ids ∨ opens) ∧
    (r.id ∈ after.passed.ids ↔ r.id ∈ before.passed.ids ∧ ¬opens) ∧
    (issues after = issues before ↔ ¬opens) := by
  intro opens issues before after
  obtain ⟨hissues, hfailed, hpassed⟩ := check_pattern hr hkind hregex f
  obtain ⟨hissues', hfailed', hpassed'⟩ := check_pattern hr hkind hregex f.concatFeed
  have hlast : lines f.concatFeed.content = lines f.content ++ [[]] := split_append_cons f.content []
  have hsame : f.concatFeed.kind = f.kind := rfl
  rw [hsame] at hissues' hfailed' hpassed'
  rw [hlast] at hfailed' hpassed'
  have hadded : issues after = issues before ++ if opens then [r.issueBehind f] else [] := by
    refine hissues'.trans (.trans ?_ (congrArg (· ++ _) hissues.symm))
    by_cases happlies : f.kind ∈ r.fileKinds
    · rw [if_pos happlies, if_pos happlies, Matcher.forbidden_concatFeed]
      simp only [opens, happlies, true_and]
    · have hnot : ¬opens := fun h => happlies h.1
      rw [if_neg happlies, if_neg happlies, if_neg hnot, List.nil_append]
  refine ⟨hadded, ?_, ?_, ?_⟩
  · rw [hfailed', hfailed, ← and_or_left]
    simp only [List.mem_append, List.mem_singleton, or_and_right, exists_or, exists_eq_left]
  · rw [hpassed', hpassed, List.forall_mem_append, List.forall_mem_singleton]
    constructor
    · rintro ⟨happlies, ⟨hlines, hempty⟩, hrequired⟩
      exact ⟨⟨happlies, hlines, hrequired⟩, fun h => hempty h.2⟩
    · rintro ⟨⟨happlies, hlines, hrequired⟩, hnot⟩
      exact ⟨happlies, ⟨hlines, fun h => hnot ⟨happlies, h⟩⟩, hrequired⟩
  · rw [hadded]
    by_cases h : opens
    · rw [if_pos h]
      exact iff_of_false (fun heq => List.cons_ne_nil _ _ (List.append_right_eq_self.1 heq)) (not_not_intro h)
    · rw [if_neg h, List.append_nil]
      exact iff_of_true rfl h

/-- A required rule against a pattern. -/
def lineRule (pattern : String) : Rule :=
  { id := "line", name := "Line", kind := .pattern pattern, fileKinds := [.go], message := "found", required := true }

/-- A checker with nothing but that rule. -/
def lineChecker (pattern : String) : Checker :=
  ofRegistry ⟨[lineRule pattern], List.nodup_singleton _⟩ .acceptAll

/-- A file without a line feed at its end. -/
def clauseFile : SourceFile :=
  ⟨⟨"a.go"⟩, .go, "package a".toList⟩

/-- The expression of `^p`. -/
def leadingP : Regex :=
  .concat (.look .textStart) (.set (.range 'p' 'p'))

/-- The expression of `^$`. -/
def blankLine : Regex :=
  .concat (.look .textStart) (.look .textEnd)

theorem lineRule_mem (pattern : String) : lineRule pattern ∈ (lineChecker pattern).registry.rules := by
  rw [lineChecker, registry_ofRegistry]
  exact List.mem_singleton_self _

/-- An expression that a line starts with does not match an empty one. -/
theorem check_concatFeed_leading :
    Matcher.compile "^p" = .ok leadingP ∧ ¬leadingP.Matches [] ∧
    ((lineChecker "^p").check clauseFile.concatFeed .empty).issues.filter (fun i => i.ruleId = "line") =
      ((lineChecker "^p").check clauseFile .empty).issues.filter (fun i => i.ruleId = "line") := by
  have hregex : Matcher.compile "^p" = .ok leadingP := Matcher.compile_eq_ok_iff.2 ⟨by decide, by cbv, by decide⟩
  have hempty : ¬leadingP.Matches [] := by decide
  obtain ⟨-, -, -, hsame⟩ := check_concatFeed (lineRule_mem "^p") rfl hregex clauseFile
  exact ⟨hregex, hempty, hsame.2 fun h => hempty h.2⟩

/-- A rule against blank lines passes on a file, and fails on the file with a line feed at its end. -/
theorem check_concatFeed_blank :
    Matcher.compile "^$" = .ok blankLine ∧ clauseFile.content ≠ [] ∧ '\n' ∉ clauseFile.content ∧
    "line" ∈ ((lineChecker "^$").check clauseFile .empty).passed.ids ∧
    "line" ∉ ((lineChecker "^$").check clauseFile .empty).failed.ids ∧
    "line" ∉ ((lineChecker "^$").check clauseFile.concatFeed .empty).passed.ids ∧
    "line" ∈ ((lineChecker "^$").check clauseFile.concatFeed .empty).failed.ids := by
  have hregex : Matcher.compile "^$" = .ok blankLine := Matcher.compile_eq_ok_iff.2 ⟨by decide, by cbv, by decide⟩
  obtain ⟨-, hfailed, hpassed⟩ := check_pattern (lineRule_mem "^$") rfl hregex clauseFile
  obtain ⟨-, hfailed', hpassed'⟩ := check_pattern (lineRule_mem "^$") rfl hregex clauseFile.concatFeed
  have hclause : ∀ line ∈ lines clauseFile.content, ¬blankLine.Matches line := by decide
  have hbehind : ∃ line ∈ lines clauseFile.concatFeed.content, blankLine.Matches line := by decide
  have hgo : FileKind.go ∈ (lineRule "^$").fileKinds := List.mem_singleton_self _
  refine ⟨hregex, by decide, by decide, hpassed.2 ⟨hgo, hclause, rfl⟩, ?_, ?_, hfailed'.2 ⟨hgo, hbehind⟩⟩
  · intro h
    obtain ⟨-, line, hline, hmatches⟩ := hfailed.1 h
    exact hclause line hline hmatches
  · intro h
    obtain ⟨-, hnone, -⟩ := hpassed'.1 h
    obtain ⟨line, hline, hmatches⟩ := hbehind
    exact hnone line hline hmatches

end Checker

end ComponentAudit
