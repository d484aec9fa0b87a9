import ComponentAudit.Proofs.Builtins
import ComponentAudit.Proofs.Returns

/-!
# Line endings

Whether the lines of a template end in line feeds or in carriage returns and line feeds makes no difference to the built-in rules
(`Checker.check_withReturns`). A return stands at the end of a line, where no word of a built-in expression ends
(`Rules.endsIn_expressions`), so each line has the match that it has without the return; and the outline of a template is the same.
Only the byte offsets of issues count the returns before them.
-/

namespace ComponentAudit

open Collector Pattern Text

/-! ## Lines -/

namespace Text

/-- Parts of a text with returns at the ends of all but the last one. -/
def returned : List (List Char) → List (List Char)
  | [] => []
  | [part] => [part]
  | part :: others => (part ++ ['\r']) :: returned others

theorem returned_cons (part : List Char) {others : List (List Char)} (h : others ≠ []) :
    returned (part :: others) = (part ++ ['\r']) :: returned others := by
  cases others with
  | nil => exact absurd rfl h
  | cons other others => rfl

/-- The lines of a text with returns are its lines with returns at their ends, the last one apart. -/
theorem lines_withReturns (s : List Char) : lines (withReturns s) = returned (lines s) := by
  unfold lines
  induction s with
  | nil => rfl
  | cons c s ih =>
    by_cases hc : c = '\n'
    · subst hc
      have hfeed : ∀ rest, split '\n' ('\n' :: rest) = [] :: split '\n' rest := fun _ => rfl
      have hreturn : ∀ rest, split '\n' ('\r' :: '\n' :: rest) = ['\r'] :: split '\n' rest := fun _ => rfl
      rw [withReturns_feed, hreturn, hfeed, ih, returned_cons [] (split_ne_nil '\n' s), List.nil_append]
    · rw [withReturns_cons hc, split, split, if_neg hc, if_neg hc, ih]
      obtain ⟨part, others, hsplit⟩ := List.exists_cons_of_ne_nil (split_ne_nil '\n' s)
      rw [hsplit]
      cases others with
      | nil => rfl
      | cons other others => rfl

/-- The same line in a text with returns: it starts as many bytes later as there are lines before it, and may have a return at
its end. -/
structure Line.Returned (l l' : Line) : Prop where
  number : l'.number = l.number
  offset : l'.offset = l.offset + (l.number - 1)
  text : l'.text = l.text ∨ l'.text = l.text ++ ['\r']

theorem forall₂_numberLines (parts : List (List Char)) : ∀ number offset : Nat,
    List.Forall₂ Line.Returned (numberLines (number + 1) offset parts) (numberLines (number + 1) (offset + number) (returned parts)) := by
  induction parts with
  | nil => exact fun _ _ => .nil
  | cons part others ih =>
    intro number offset
    cases others with
    | nil => exact .cons ⟨rfl, rfl, Or.inl rfl⟩ .nil
    | cons other others =>
      have hoffset : offset + number + byteLength (part ++ ['\r']) + 1 = offset + byteLength part + 1 + (number + 1) := by
        rw [byteLength_append, show byteLength ['\r'] = 1 from rfl]
        omega
      have hrest := ih (number + 1) (offset + byteLength part + 1)
      rw [← hoffset] at hrest
      rw [returned_cons part (List.cons_ne_nil _ _)]
      exact .cons ⟨rfl, rfl, Or.inr rfl⟩ hrest

/-- Each line of a text stands in the text with returns. -/
theorem forall₂_numberedLines (s : List Char) :
    List.Forall₂ Line.Returned (numberedLines s) (numberedLines (withReturns s)) := by
  rw [numberedLines, numberedLines, lines_withReturns]
  exact forall₂_numberLines (lines s) 0 0

/-- A text that does not end in a return stands in a line exactly if it does without the return at the line's end. -/
theorem contains_append_return {needle : List Char} (h : needle.getLast? ≠ some '\r') (s : List Char) :
    contains needle (s ++ ['\r']) = contains needle s := by
  rw [Bool.eq_iff_iff, contains_iff, contains_iff]
  constructor
  · intro hinfix
    rcases List.infix_concat_iff.1 hinfix with hsuffix | hinfix
    · rcases List.suffix_concat_iff.1 hsuffix with rfl | ⟨rest, rfl, -⟩
      · exact List.nil_infix
      · exact absurd List.getLast?_concat h
    · exact hinfix
  · exact fun hinfix => hinfix.trans (List.infix_append_left)

end Text

/-! ## Matches -/

/-- A search finds the same in a line with a return at its end, if no word ends in one. -/
theorem Pattern.Regex.find?_append_return {r : Regex} (hplain : r.isPlain = true) (hnonempty : r.isNullable = false)
    (hreturn : r.endsIn '\r' = false) (s : List Char) : r.find? (s ++ ['\r']) = r.find? s := by
  have hword : ∀ a, a ++ ['\r'] ∉ r.language := fun a hmem =>
    getLast?_ne_of_endsIn r hreturn _ hmem List.getLast?_concat
  have hseparates : r.Separates s ['\r'] := by
    intro a b _ hb hmem
    rcases List.prefix_cons_iff.1 hb with rfl | ⟨rest, rfl, hrest⟩
    · exact Or.inr rfl
    · rw [List.prefix_nil.1 hrest] at hmem
      exact absurd hmem (hword a)
  have hnone : r.find? ['\r'] = none := by
    rw [find?_eq_none_iff_not_matches, matches_iff hplain]
    rintro ⟨w, hmem, hinfix⟩
    have hne := ne_nil_of_mem hnonempty hmem
    rcases List.infix_cons_iff.1 hinfix with hprefix | hinfix
    · rcases List.prefix_cons_iff.1 hprefix with rfl | ⟨rest, rfl, hrest⟩
      · exact hne rfl
      · rw [List.prefix_nil.1 hrest] at hmem
        exact hword [] hmem
    · exact hne (List.infix_nil.1 hinfix)
  rw [find?_append hplain hnonempty hseparates, hnone, Option.map_none, Option.or_none]

/-- The issue with its span as many bytes later as there are lines before it. -/
def Issue.afterReturns (i : Issue) : Issue :=
  { i with location := { i.location with offset := i.location.offset + (i.location.line - 1) } }

/-- The file with a carriage return before each of its line feeds. -/
def SourceFile.withReturns (f : SourceFile) : SourceFile :=
  { f with content := Text.withReturns f.content }

namespace Rules

/-- No word of a built-in expression ends in a return, and no declaration that a built-in rule asks for does. -/
theorem endsIn_expressions : ∀ e ∈ expressions, e.2.endsIn '\r' = false ∧
    ∀ declaration ∈ e.1.kind.declaration?, declaration.toList.getLast? ≠ some '\r' := by
  decide

end Rules

namespace Checker

variable {c : Checker}

/-- A line with a return has the issue that it has without it. -/
theorem issueIn_returned (h : c.registry.IsBuiltin) {m : Matcher} (hm : m ∈ c.matchers) {path : Path} {l l' : Line}
    (fix : Option String) (hl : l.Returned l') : m.issueIn path fix l' = (m.issueIn path fix l).map Issue.afterReturns := by
  obtain ⟨b, he, -⟩ := exists_expression h hm
  obtain ⟨hplain, hnonempty⟩ := Rules.plain_expressions _ he
  obtain ⟨hreturn, -⟩ := Rules.endsIn_expressions _ he
  have hissue : ∀ found : Regex.Match, found.start + found.length ≤ l.text.length →
      m.issueAt path fix l' found = (m.issueAt path fix l found).afterReturns := by
    intro found hwithin
    have hbefore : l'.text.take found.start = l.text.take found.start := by
      rcases hl.text with htext | htext
      · rw [htext]
      · rw [htext, List.take_append_of_le_length (by omega)]
    have hmatched : (l'.text.drop found.start).take found.length = (l.text.drop found.start).take found.length := by
      rcases hl.text with htext | htext
      · rw [htext]
      · rw [htext, take_drop_append _ hwithin]
    simp only [Matcher.issueAt, hbefore, hmatched, hl.number, hl.offset, Nat.add_right_comm _ (l.number - 1)]
    rfl
  have hfind : m.regex.find? l'.text = m.regex.find? l.text := by
    rcases hl.text with htext | htext
    · rw [htext]
    · rw [htext, Regex.find?_append_return hplain hnonempty hreturn]
  rw [Matcher.issueIn, Matcher.issueIn, hfind]
  cases hfound : m.regex.find? l.text with
  | none => rfl
  | some found => rw [Option.map_some, Option.map_some, Option.map_some, hissue found (Regex.find?_eq_some_iff.1 hfound).within]

/-- What the rules on text say about a file with returns. -/
theorem textCalls_withReturns (h : c.registry.IsBuiltin) {m : Matcher} (hm : m ∈ c.matchers) (f : SourceFile) :
    m.calls f.withReturns = (m.calls f).map (Call.mapIssue Issue.afterReturns) := by
  have hdeclaration : ∀ pattern declaration, m.rule.kind = .importRequirement pattern declaration → ∀ l l' : Line,
      l.Returned l' → Text.contains declaration.toList l'.text = Text.contains declaration.toList l.text := by
    intro pattern declaration hkind l l' hl
    obtain ⟨b, he, -, hasked⟩ := exists_requirement h hm hkind
    have hlast := (Rules.endsIn_expressions _ he).2 declaration hasked
    rcases hl.text with htext | htext
    · rw [htext]
    · rw [htext, contains_append_return hlast]
  exact Matcher.calls_of_lineCalls_map (goesByLines h hm) rfl rfl
    (Matcher.lineCalls_of_forall₂ (fun l l' fix => issueIn_returned h hm fix) hdeclaration (forall₂_numberedLines f.content))

end Checker

/-! ## The outline -/

/-- The place of a character in a file with returns is as many bytes later as there are lines before it. -/
theorem SourceFile.point_withReturns {f : SourceFile} {before : List Char} {c : Char} (h : before ++ [c] <+: f.content)
    (hc : c ≠ '\n') {p : Position} (hplace : Position.start.advance before = p) :
    f.withReturns.point p.line p.column =
      { f.point p.line p.column with offset := (f.point p.line p.column).offset + (p.line - 1) } := by
  have hreturns : Text.withReturns before ++ [c] <+: f.withReturns.content := by
    obtain ⟨after, hcontent⟩ := h
    refine ⟨Text.withReturns after, ?_⟩
    rw [SourceFile.withReturns, ← hcontent, withReturns_append, withReturns_append, withReturns_cons hc]
    rfl
  have hadvance : Position.start.advance (Text.withReturns before) = p := (advance_withReturns .start before).trans hplace
  have hline : p.line - 1 = before.count '\n' := by
    rw [← hplace, line_advance]
    exact Nat.add_sub_cancel_left 1 _
  rw [point_eq_placeOf hreturns hc hadvance, point_eq_placeOf h hc hplace, placeOf_eq hreturns, placeOf_eq h, hadvance, hplace,
    byteLength_withReturns, hline]
  rfl

namespace Checker

variable {c : Checker} {f : SourceFile}

/-- What a rule on syntax says about a template with returns. -/
theorem syntaxCall_withReturns (hkind : f.kind = .templ) (parser : SourceParser) (r : Rule) :
    syntaxCall f.withReturns (checkSyntax parser f.kind f.content) r =
      (syntaxCall f (checkSyntax parser f.kind f.content) r).mapIssue Issue.afterReturns := by
  rw [hkind, checkSyntax]
  cases hcheck : Template.check f.content with
  | ok u => rfl
  | error e =>
    obtain ⟨before, c, hprefix, hc, hplace, -⟩ := Template.exists_culprit hcheck
    obtain ⟨hline, -⟩ := f.point_position e.position.line e.position.column
    have hpoint := SourceFile.point_withReturns hprefix hc hplace
    simp only [syntaxCall, Except.mapError, SyntaxFailure.position, Call.mapIssue, hpoint]
    simp only [Issue.ofRule, Issue.afterReturns, Issue.identifier, hline]

/-- What a checker with built-in rules says about a template with returns. -/
theorem calls_withReturns (h : c.registry.IsBuiltin) (hkind : f.kind = .templ) :
    c.calls f.withReturns = (c.calls f).map (Call.mapIssue Issue.afterReturns) := by
  have houtcome : checkSyntax c.parser f.withReturns.kind f.withReturns.content = checkSyntax c.parser f.kind f.content := by
    simp only [SourceFile.withReturns, hkind, checkSyntax, Template.outline_withReturns]
  have hmatchers : Matcher.allCalls c.matchers f.withReturns =
      (Matcher.allCalls c.matchers f).map (Call.mapIssue Issue.afterReturns) := by
    rw [Matcher.allCalls, Matcher.allCalls, List.map_flatMap]
    exact List.flatMap_congr fun m hm => textCalls_withReturns h hm f
  have hcompilation : ∀ r, (compilationCall (checkSyntax c.parser f.kind f.content) r).mapIssue Issue.afterReturns =
      compilationCall (checkSyntax c.parser f.kind f.content) r := by
    intro r
    unfold compilationCall
    split
    · rfl
    · rfl
  rw [calls_eq_callsFor, calls_eq_callsFor, houtcome, callsFor, callsFor, hmatchers, List.map_append, List.map_append,
    List.map_map, List.map_map]
  congr 2
  · exact List.map_congr_left fun r _ => syntaxCall_withReturns hkind c.parser r
  · exact funext fun r => (hcompilation r).symm

/-- Line endings make no difference to the built-in rules. With any of them, required or not, the check of a template whose lines
end in carriage returns and line feeds records the issues that it records with line feeds alone, one by one the same in all but
the byte offset, which counts the lines before; and the same rules pass and fail. -/
theorem check_withReturns (h : c.registry.IsBuiltin) (hkind : f.kind = .templ) (found : Collector) :
    ∃ recorded, (c.check f found).issues = found.issues ++ recorded ∧
      (c.check f.withReturns found).issues = found.issues ++ recorded.map Issue.afterReturns ∧
      (c.check f.withReturns found).passed = (c.check f found).passed ∧
      (c.check f.withReturns found).failed = (c.check f found).failed := by
  have hplain : Plain (c.calls f) := by
    rw [calls_eq_callsFor]
    exact plain_callsFor c f _
  have hplain' : Plain (c.calls f.withReturns) := by
    rw [calls_eq_callsFor]
    exact plain_callsFor c f.withReturns _
  obtain ⟨hpassed, hfailed⟩ := verdicts_runAll_map (g := Issue.afterReturns) (fun _ => rfl) hplain (c := found) (d := found) rfl rfl
  rw [← calls_withReturns h hkind] at hpassed hfailed
  refine ⟨(c.calls f).filterMap Call.issue?, issues_runAll hplain found, ?_, hpassed, hfailed⟩
  rw [check, issues_runAll hplain', calls_withReturns h hkind, filterMap_issue?_map]

/-- A template that uses atoms without importing them, and leaves a brace open. -/
def openFile : SourceFile :=
  ⟨⟨"a.templ"⟩, .templ, "templ A() \x7b\n\t@atoms.Button(\"go\")\n".toList⟩

/-- A checker with some of the strict rules. -/
def strictChecker : Checker :=
  ofRegistry (Rules.strictRegistry.retain ["valid-template-syntax", "namespace-import-present", "button-props-struct"]) .acceptAll

/-- The strict rules find the same in the template with returns. -/
theorem check_withReturns_strict :
    strictChecker.registry.IsBuiltin ∧ openFile.kind = .templ ∧
    openFile.withReturns.content = "templ A() \x7b\r\n\t@atoms.Button(\"go\")\r\n".toList ∧
    (strictChecker.check openFile.withReturns .empty).issues = (strictChecker.check openFile .empty).issues.map Issue.afterReturns ∧
    (strictChecker.check openFile.withReturns .empty).failed = (strictChecker.check openFile .empty).failed := by
  have hbuiltin : strictChecker.registry.IsBuiltin := by
    rw [strictChecker, registry_ofRegistry]
    exact (Registry.isBuiltin_of_preset .strict rfl).retain _
  have hempty : Collector.empty.issues = [] := rfl
  obtain ⟨recorded, hissues, hreturns, -, hfailed⟩ := check_withReturns hbuiltin (f := openFile) rfl .empty
  rw [hempty, List.nil_append] at hissues hreturns
  rw [hissues]
  exact ⟨hbuiltin, rfl, by decide, hreturns, hfailed⟩

end Checker

end ComponentAudit
