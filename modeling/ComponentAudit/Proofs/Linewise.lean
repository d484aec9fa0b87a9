import ComponentAudit.Proofs.Appending
import ComponentAudit.Proofs.Paths
import ComponentAudit.Proofs.Places

/-!
# Rules on text, line by line

A forbidden pattern is looked for line by line. An import requirement looks at a file as a whole, but as long as what it looks
for has no line feed in it, it may as well go by lines: the first use of the file is the first use of the first line that has
one (`Matcher.findSome?_issueIn`), and a declaration stands in the file if it stands in a line. So what such a rule says about
a file follows from its lines (`Matcher.calls_eq_lineCalls`), and two files whose lines correspond have calls that correspond
(`Matcher.lineCalls_of_forall₂`).
-/

namespace ComponentAudit

open Collector Pattern Text

/-! ## Texts that stand in a line -/

namespace Text

/-- A stretch of the first part of a text is the same in the whole. -/
theorem take_drop_append {part : List Char} (rest : List Char) {start n : Nat} (h : start + n ≤ part.length) :
    ((part ++ rest).drop start).take n = (part.drop start).take n := by
  have hdrop : n ≤ (part.drop start).length := by
    rw [List.length_drop]
    omega
  rw [List.drop_append_of_le_length (by omega), List.take_append_of_le_length hdrop]

/-- A text without a separator stands in a part if it stands in the whole. -/
theorem infix_append_cons_iff {separator : Char} {w s t : List Char} (hw : separator ∉ w) :
    w <:+: s ++ separator :: t ↔ w <:+: s ∨ w <:+: t := by
  constructor
  · rintro ⟨before, after, heq⟩
    rw [List.append_assoc] at heq
    rcases List.append_eq_append_iff.1 heq with ⟨rest, rfl, hrest⟩ | ⟨rest, rfl, hrest⟩
    · -- The text starts in the first part, so it ends there.
      rcases List.append_eq_append_iff.1 hrest with ⟨more, rfl, -⟩ | ⟨more, rfl, hmore⟩
      · exact Or.inl ⟨before, more, by simp⟩
      · cases more with
        | nil => exact Or.inl ⟨before, [], by simp⟩
        | cons c more =>
          obtain ⟨rfl, -⟩ := List.cons.inj hmore
          exact absurd (List.mem_append_right _ (List.mem_cons_self ..)) hw
    · cases rest with
      | nil =>
        cases w with
        | nil => exact Or.inl List.nil_infix
        | cons c w =>
          obtain ⟨rfl, -⟩ := List.cons.inj hrest
          exact absurd (List.mem_cons_self ..) hw
      | cons c rest =>
        obtain ⟨-, rfl⟩ := List.cons.inj hrest
        exact Or.inr ⟨rest, after, by simp⟩
  · rintro (h | h)
    · exact h.trans (List.infix_append_left)
    · exact (h.trans (List.infix_cons (List.infix_refl t))).trans (List.infix_append_right)

/-- A text without a separator stands in a text exactly if it stands in a part of it. -/
theorem infix_iff_exists_split {separator : Char} {w : List Char} (hw : separator ∉ w) {s : List Char} :
    w <:+: s ↔ ∃ part ∈ split separator s, w <:+: part := by
  have parts : ∀ parts : List (List Char), parts ≠ [] → (w <:+: join separator parts ↔ ∃ part ∈ parts, w <:+: part) := by
    intro parts
    induction parts with
    | nil => exact fun h => absurd rfl h
    | cons part others ih =>
      intro _
      cases others with
      | nil => simp [join]
      | cons other others =>
        rw [join_cons separator part (List.cons_ne_nil _ _), infix_append_cons_iff hw, ih (List.cons_ne_nil _ _)]
        simp only [List.mem_cons, exists_eq_or_imp]
  rw [← parts _ (split_ne_nil separator s), join_split]

/-- A text without a line feed is found in another one exactly if it is found in one of its lines. -/
theorem contains_eq_any {needle : List Char} (h : '\n' ∉ needle) (s : List Char) :
    contains needle s = (numberedLines s).any fun l => contains needle l.text := by
  rw [Bool.eq_iff_iff, contains_iff, infix_iff_exists_split h, List.any_eq_true]
  simp only [contains_iff]
  rw [← lines, ← map_text_numberLines 1 0 (lines s)]
  simp only [List.mem_map, exists_exists_and_eq_and, numberedLines]

end Text

/-! ## Matches in a line -/

/-- An expression whose words stand in one line, and are not empty. -/
structure Pattern.Regex.InLines (r : Regex) : Prop where
  plain : r.isPlain = true
  nonempty : r.isNullable = false
  whole : r.mentions '\n' = false

/-- A search in a text is one in its first line, and else in what follows it. -/
theorem Pattern.Regex.InLines.find?_append_cons {r : Regex} (h : r.InLines) (s t : List Char) :
    r.find? (s ++ '\n' :: t) =
      (r.find? s).or ((r.find? t).map fun found => ⟨s.length + 1 + found.start, found.length⟩) := by
  have hword : ∀ a b : List Char, a ++ '\n' :: b ∉ r.language := fun a b hmem =>
    Regex.not_mem_of_mentions r h.whole _ hmem (List.mem_append_right _ (List.mem_cons_self ..))
  have hborder : r.Separates s ('\n' :: t) := by
    intro a b _ hb hmem
    cases b with
    | nil => exact Or.inr rfl
    | cons c b =>
      obtain ⟨rfl, -⟩ := List.cons_prefix_cons.1 hb
      exact absurd hmem (hword a b)
  have hfeed : r.Separates ['\n'] t := by
    intro a b ha _ hmem
    rcases List.suffix_cons_iff.1 ha with rfl | ha
    · exact absurd hmem (hword [] b)
    · exact Or.inl (List.suffix_nil.1 ha)
  have hnone : r.find? ['\n'] = none := by
    rw [Regex.find?_eq_none_iff_not_matches, Regex.matches_iff h.plain]
    rintro ⟨w, hmem, hinfix⟩
    have hne := Regex.ne_nil_of_mem h.nonempty hmem
    rcases List.infix_cons_iff.1 hinfix with hprefix | hinfix
    · rcases List.prefix_cons_iff.1 hprefix with rfl | ⟨rest, rfl, -⟩
      · exact hne rfl
      · exact hword [] rest hmem
    · exact hne (List.infix_nil.1 hinfix)
  rw [Regex.find?_append h.plain h.nonempty hborder, ← List.singleton_append,
    Regex.find?_append h.plain h.nonempty hfeed, hnone, Option.none_or, Option.map_map]
  congr 2
  funext found
  simp only [Function.comp_apply, List.length_singleton, Nat.add_assoc]

namespace Matcher

/-- The issue of a match in a line of a file. -/
def issueAt (m : Matcher) (path : Path) (fix : Option String) (l : Line) (found : Regex.Match) : Issue :=
  let before := l.text.take found.start
  let matched := (l.text.drop found.start).take found.length
  .ofRule m.rule.id m.rule.severity
    { file := path, line := l.number, column := before.length + 1, offset := l.offset + byteLength before,
      length := byteLength matched }
    m.rule.message (String.ofList matched) fix

/-- The issue of the first match in a line of a file. -/
def issueIn (m : Matcher) (path : Path) (fix : Option String) (l : Line) : Option Issue :=
  (m.regex.find? l.text).map (m.issueAt path fix l)

/-- The issue of a match in a line of a file has the line's number, and its column counts from the start of the line. -/
theorem issue_eq_issueAt (m : Matcher) {f : SourceFile} {l : Line} (hl : l ∈ f.lines) (found : Regex.Match)
    (fix : Option String) : m.issue f l.offset l.text found fix = m.issueAt f.relativePath fix l found := by
  obtain ⟨before, after, hstands⟩ := Line.standsIn_of_mem hl
  have hpart : '\n' ∉ l.text.take found.start := fun h => hstands.whole (List.mem_of_mem_take h)
  have hplace : Position.start.advance (before ++ l.text.take found.start) = ⟨l.number, 1 + (l.text.take found.start).length⟩ := by
    rw [advance_append, hstands.advance_eq, advance_of_not_mem hpart]
  have hline : (before ++ l.text.take found.start).count '\n' + 1 = l.number := by
    rw [List.count_append, List.count_eq_zero_of_not_mem hpart, hstands.number, Nat.add_zero]
  have hcolumn := (column_advance_start (before ++ l.text.take found.start)).symm.trans (congrArg Position.column hplace)
  have hlocation := location_issue (m := m) hstands.content found fix
  rw [hline, hcolumn, byteLength_append, ← hstands.offset, Nat.add_comm 1] at hlocation
  have heq : m.issue f l.offset l.text found fix = .ofRule m.rule.id m.rule.severity
      (m.issue f l.offset l.text found fix).location m.rule.message
      (String.ofList ((l.text.drop found.start).take found.length)) fix := rfl
  rw [heq, hlocation]
  rfl

/-- The issues of the first matches in the lines of a file. -/
theorem filterMap_issueIn (m : Matcher) (f : SourceFile) (fix : Option String) :
    f.lines.filterMap (m.issueIn f.relativePath fix) =
      f.lines.filterMap fun l => (m.regex.find? l.text).map fun found => m.issue f l.offset l.text found fix := by
  refine List.filterMap_congr fun l hl => ?_
  unfold issueIn
  exact congrArg (fun make => Option.map make _) (funext fun found => (m.issue_eq_issueAt hl found _).symm)

/-- The issues of a forbidden pattern follow from the lines. -/
theorem forbidden_eq (m : Matcher) (f : SourceFile) :
    m.forbidden f = f.lines.filterMap (m.issueIn f.relativePath m.rule.suggestedFix) :=
  (m.filterMap_issueIn f m.rule.suggestedFix).symm

/-- A match in the first part of a text is the same match in the whole. -/
theorem issue_append_left (m : Matcher) (f : SourceFile) (offset : Nat) {part : List Char} (rest : List Char)
    {found : Regex.Match} (h : found.start + found.length ≤ part.length) (fix : Option String) :
    m.issue f offset (part ++ rest) found fix = m.issue f offset part found fix := by
  have hbefore : (part ++ rest).take found.start = part.take found.start := List.take_append_of_le_length (by omega)
  unfold issue
  rw [hbefore, take_drop_append rest h]

/-- A match after the first part of a text is a match in what follows. -/
theorem issue_append_right (m : Matcher) (f : SourceFile) (offset : Nat) (part rest : List Char) (found : Regex.Match)
    (fix : Option String) :
    m.issue f offset (part ++ rest) ⟨part.length + found.start, found.length⟩ fix =
      m.issue f (offset + byteLength part) rest found fix := by
  unfold issue
  simp only [List.take_length_add_append, List.drop_length_add_append, byteLength_append, Nat.add_assoc]

/-- The first use of a file is the first one in a line. -/
theorem head?_filterMap_issueIn (m : Matcher) (h : m.regex.InLines) (f : SourceFile) (fix : Option String) :
    (f.lines.filterMap (m.issueIn f.relativePath fix)).head? =
      (m.regex.find? f.content).map fun found => m.issue f 0 f.content found fix := by
  have parts : ∀ (parts : List (List Char)) (number offset : Nat), parts ≠ [] →
      ((numberLines number offset parts).filterMap fun l =>
        (m.regex.find? l.text).map fun found => m.issue f l.offset l.text found fix).head? =
      (m.regex.find? (join '\n' parts)).map fun found => m.issue f offset (join '\n' parts) found fix := by
    intro parts
    induction parts with
    | nil => exact fun _ _ h => absurd rfl h
    | cons part others ih =>
      intro number offset _
      cases others with
      | nil => simp [numberLines, join, List.head?_filterMap]
      | cons other others =>
        have hrest := ih (number + 1) (offset + byteLength part + 1) (List.cons_ne_nil _ _)
        have hfeed : ∀ found : Regex.Match,
            m.issue f offset (part ++ '\n' :: join '\n' (other :: others)) ⟨part.length + 1 + found.start, found.length⟩ fix =
              m.issue f (offset + byteLength part + 1) (join '\n' (other :: others)) found fix := by
          intro found
          have happend := m.issue_append_right f offset (part ++ ['\n']) (join '\n' (other :: others)) found fix
          rw [List.length_append, byteLength_append, List.append_assoc] at happend
          exact happend
        rw [numberLines, join_cons '\n' part (List.cons_ne_nil _ _), h.find?_append_cons]
        cases hpart : m.regex.find? part with
        | some found =>
          have hwithin := (Regex.find?_eq_some_iff.1 hpart).within
          rw [List.filterMap_cons_some (by rw [hpart, Option.map_some]), List.head?_cons, Option.some_or, Option.map_some,
            m.issue_append_left f offset _ hwithin]
        | none =>
          rw [List.filterMap_cons_none (by rw [hpart, Option.map_none]), hrest, Option.none_or, Option.map_map]
          simp only [Function.comp_def, hfeed]
  have hwhole := parts (lines f.content) 1 0 (split_ne_nil '\n' f.content)
  rw [lines, join_split] at hwhole
  rw [filterMap_issueIn]
  exact hwhole

/-! ## Calls -/

/-- What a rule on text says about some lines of a file. -/
def lineCalls (m : Matcher) (path : Path) (ls : List Line) : List Call :=
  match m.rule.kind with
  | .pattern _ =>
    let issues := ls.filterMap (m.issueIn path m.rule.suggestedFix)
    if issues.isEmpty ∧ m.rule.required then [.pass m.rule.id] else issues.map .record
  | .importRequirement _ declaration =>
    match (ls.filterMap (m.issueIn path (some (m.declarationFix declaration)))).head? with
    | none => if m.rule.required then [.pass m.rule.id] else []
    | some use =>
      if ls.any fun l => Text.contains declaration.toList l.text then [.pass m.rule.id] else [.record use]
  | .syntaxCheck | .compilation => []

/-- A rule on text goes by lines if what it looks for in a file as a whole stands in one line: uses and declaration. -/
def GoesByLines (m : Matcher) : Prop :=
  ∀ pattern declaration, m.rule.kind = .importRequirement pattern declaration → m.regex.InLines ∧ '\n' ∉ declaration.toList

/-- What a rule on text says about a file follows from its lines. -/
theorem calls_eq_lineCalls {m : Matcher} (h : m.GoesByLines) (f : SourceFile) :
    m.calls f = if m.rule.appliesTo f.kind then m.lineCalls f.relativePath f.lines else [] := by
  unfold calls lineCalls
  split
  · cases hkind : m.rule.kind with
    | syntaxCheck | compilation => rfl
    | pattern pattern => simp only [forbid, forbidden_eq]
    | importRequirement pattern declaration =>
      obtain ⟨hlines, hdeclaration⟩ := h pattern declaration hkind
      have hany := contains_eq_any hdeclaration f.content
      simp only [requireDeclaration, head?_filterMap_issueIn m hlines, hany]
      cases m.regex.find? f.content with
      | none => rfl
      | some use => rfl
  · rfl

end Matcher

namespace Collector

/-- A call with another issue in it. -/
def Call.mapIssue (g : Issue → Issue) : Call → Call
  | .record i => .record (g i)
  | .pass id => .pass id
  | .fail id => .fail id
  | .absorb calls => .absorb calls

/-- Where the issues of calls are changed, so are those that are recorded. -/
theorem filterMap_issue?_map (g : Issue → Issue) (calls : List Call) :
    (calls.map (Call.mapIssue g)).filterMap Call.issue? = (calls.filterMap Call.issue?).map g := by
  rw [List.filterMap_map, List.map_filterMap]
  refine List.filterMap_congr fun call _ => ?_
  cases call with
  | record i => rfl
  | pass id => rfl
  | fail id => rfl
  | absorb calls => rfl

/-- Where issues are changed but not the rules that they are of, the same rules pass and fail. -/
theorem verdicts_runAll_map {g : Issue → Issue} (hg : ∀ i, (g i).ruleId = i.ruleId) {calls : List Call} (h : Plain calls)
    {c d : Collector} (hpassed : d.passed = c.passed) (hfailed : d.failed = c.failed) :
    (d.runAll (calls.map (Call.mapIssue g))).passed = (c.runAll calls).passed ∧
      (d.runAll (calls.map (Call.mapIssue g))).failed = (c.runAll calls).failed := by
  induction calls generalizing c d with
  | nil => exact ⟨hpassed, hfailed⟩
  | cons call rest ih =>
    rw [List.map_cons, runAll, runAll]
    obtain ⟨id, hid⟩ := h call (List.mem_cons_self ..)
    cases call with
    | record i => exact ih h.tail hpassed (by simp only [run, Call.mapIssue, record, hfailed, hg])
    | pass id => exact ih h.tail (by simp only [run, Call.mapIssue, pass, hpassed]) hfailed
    | fail id => exact ih h.tail hpassed (by simp only [run, Call.mapIssue, fail, hfailed])
    | absorb calls => cases hid

end Collector

namespace Matcher

variable {m : Matcher} {path : Path}

/-- Where lines give the same issues, one changed as the other is, and hold the same declarations, the calls are the same but for
that change. -/
theorem lineCalls_of_forall₂ {R : Line → Line → Prop} {g : Issue → Issue}
    (hissue : ∀ l l' fix, R l l' → m.issueIn path fix l' = (m.issueIn path fix l).map g)
    (hdeclaration : ∀ pattern declaration, m.rule.kind = .importRequirement pattern declaration →
      ∀ l l', R l l' → Text.contains declaration.toList l'.text = Text.contains declaration.toList l.text)
    {ls ls' : List Line} (h : List.Forall₂ R ls ls') : m.lineCalls path ls' = (m.lineCalls path ls).map (Call.mapIssue g) := by
  have hissues : ∀ fix, ls'.filterMap (m.issueIn path fix) = (ls.filterMap (m.issueIn path fix)).map g := by
    intro fix
    induction h with
    | nil => rfl
    | cons hl _ ih =>
      rw [List.filterMap_cons, List.filterMap_cons, hissue _ _ fix hl, ih]
      cases m.issueIn path fix _ with
      | none => rfl
      | some i => rfl
  unfold lineCalls
  cases hkind : m.rule.kind with
  | syntaxCheck | compilation => rfl
  | pattern pattern =>
    simp only [hissues, List.isEmpty_map]
    split
    · rfl
    · rw [List.map_map, List.map_map]
      rfl
  | importRequirement pattern declaration =>
    have hany : (ls'.any fun l => Text.contains declaration.toList l.text) =
        ls.any fun l => Text.contains declaration.toList l.text := by
      clear hissues
      induction h with
      | nil => rfl
      | cons hl _ ih => rw [List.any_cons, List.any_cons, hdeclaration pattern declaration hkind _ _ hl, ih]
    simp only [hissues, hany, List.head?_map]
    cases (ls.filterMap (m.issueIn path (some (m.declarationFix declaration)))).head? with
    | none =>
      simp only [Option.map_none]
      split
      · rfl
      · rfl
    | some use =>
      simp only [Option.map_some]
      split
      · rfl
      · rfl

/-- Where the calls for the lines of two files of one kind differ in their issues only, so do the calls for the files. -/
theorem calls_of_lineCalls_map (h : m.GoesByLines) {f f' : SourceFile} {g : Issue → Issue} (hkind : f'.kind = f.kind)
    (hpath : f'.relativePath = f.relativePath)
    (hcalls : m.lineCalls f.relativePath f'.lines = (m.lineCalls f.relativePath f.lines).map (Call.mapIssue g)) :
    m.calls f' = (m.calls f).map (Call.mapIssue g) := by
  rw [calls_eq_lineCalls h, calls_eq_lineCalls h, hkind, hpath]
  split
  · exact hcalls
  · rfl

/-- A line without a match and without a declaration makes no difference. -/
theorem lineCalls_insert {l : Line} (hissue : m.regex.find? l.text = none)
    (hdeclaration : ∀ pattern declaration, m.rule.kind = .importRequirement pattern declaration →
      Text.contains declaration.toList l.text = false) (ls ls' : List Line) :
    m.lineCalls path (ls ++ l :: ls') = m.lineCalls path (ls ++ ls') := by
  have hnone : ∀ fix, m.issueIn path fix l = none := by
    intro fix
    rw [issueIn, hissue, Option.map_none]
  have hissues : ∀ fix, (ls ++ l :: ls').filterMap (m.issueIn path fix) = (ls ++ ls').filterMap (m.issueIn path fix) := by
    intro fix
    rw [List.filterMap_append, List.filterMap_cons_none (hnone fix), List.filterMap_append]
  unfold lineCalls
  cases hkind : m.rule.kind with
  | syntaxCheck | compilation => rfl
  | pattern pattern => simp only [hissues]
  | importRequirement pattern declaration =>
    simp only [hissues, List.any_append, List.any_cons, hdeclaration pattern declaration hkind, Bool.false_or]

end Matcher

end ComponentAudit
