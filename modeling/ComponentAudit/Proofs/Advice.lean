import ComponentAudit.Proofs.Builtins

/-!
# Following the advice to import

Where a template uses components without importing them, the issue names the import to add. Adding it as a line of its own, at the
start of the file or after any line feed, settles the issue: the rule passes, and nothing else changes but the lines further down
(`Checker.check_advised`). For the line holds the declaration, no expression of a built-in rule matches in it
(`Rules.find?_importLine`), and what a rule on text says about a file follows from its lines.
-/

namespace ComponentAudit

open Collector Pattern Text

/-! ## A line more -/

namespace Text

/-- A part of a text after which a line starts. -/
def Opens (before : List Char) : Prop :=
  before = [] ∨ ∃ earlier, before = earlier ++ ['\n']

/-- The lines of a text are those before the start of a line, and those from there on. -/
theorem exists_numberedLines_append {before : List Char} (h : Opens before) :
    ∃ ls, (∀ l ∈ ls, l.number ≤ before.count '\n') ∧
      ∀ t, numberedLines (before ++ t) = ls ++ numberLines (before.count '\n' + 1) (byteLength before) (lines t) := by
  rcases h with rfl | ⟨earlier, rfl⟩
  · exact ⟨[], fun l hl => absurd hl List.not_mem_nil, fun _ => rfl⟩
  · have hcount : (earlier ++ ['\n']).count '\n' = earlier.count '\n' + 1 := by
      rw [List.count_append, List.count_singleton_self]
    have hlength : (lines earlier).length = earlier.count '\n' + 1 := length_split '\n' earlier
    refine ⟨numberedLines earlier, fun l hl => ?_, fun t => ?_⟩
    · have hnumber : l.number ∈ (numberedLines earlier).map (·.number) := List.mem_map_of_mem hl
      rw [numberedLines, map_number_numberLines, hlength, List.mem_range'_1] at hnumber
      rw [hcount]
      omega
    · have hbytes : byteLength (earlier ++ ['\n']) = byteLength earlier + 1 := byteLength_append earlier ['\n']
      rw [List.append_assoc, List.singleton_append, numberedLines_append_cons, hcount, hbytes]

/-- A line once a line of some bytes stands before the line of a number. -/
def Line.moved (number size : Nat) (l : Line) : Line :=
  if number ≤ l.number then { l with number := l.number + 1, offset := l.offset + size } else l

theorem map_moved_numberLines {number n : Nat} (size : Nat) (h : number ≤ n) (offset : Nat) (parts : List (List Char)) :
    (numberLines n offset parts).map (Line.moved number size) = numberLines (n + 1) (offset + size) parts := by
  induction parts generalizing n offset with
  | nil => rfl
  | cons part parts ih =>
    have hoffset : offset + size + byteLength part + 1 = offset + byteLength part + 1 + size := by omega
    rw [numberLines, numberLines, List.map_cons, ih (Nat.le_succ_of_le h), Line.moved, if_pos h, hoffset]

end Text

/-- An issue once a line of some bytes stands before the line of a number. -/
def Issue.moved (number size : Nat) (i : Issue) : Issue :=
  if number ≤ i.location.line then
    let location := { i.location with line := i.location.line + 1, offset := i.location.offset + size }
    { i with id := identifier i.ruleId location, location }
  else i

theorem Issue.ruleId_moved (number size : Nat) (i : Issue) : (i.moved number size).ruleId = i.ruleId := by
  unfold moved
  split
  · rfl
  · rfl

namespace Collector

variable {g : Issue → Issue} {calls : List Call} {id : String}

/-- Changing issues makes no pass. -/
theorem pass_mem_map_mapIssue : .pass id ∈ calls.map (Call.mapIssue g) ↔ .pass id ∈ calls := by
  rw [List.mem_map]
  constructor
  · rintro ⟨call, hcall, hpass⟩
    cases call with
    | pass other => exact hpass ▸ hcall
    | record i => cases hpass
    | fail other => cases hpass
    | absorb calls => cases hpass
  · exact fun hpass => ⟨_, hpass, rfl⟩

/-- Changing issues but not the rules that they are of makes no failure. -/
theorem exists_fails_map_mapIssue (hg : ∀ i, (g i).ruleId = i.ruleId) :
    (∃ call ∈ calls.map (Call.mapIssue g), call.Fails id) ↔ ∃ call ∈ calls, call.Fails id := by
  have hfails : ∀ call : Call, (call.mapIssue g).Fails id ↔ call.Fails id := by
    intro call
    cases call with
    | record i =>
      constructor
      · rintro (hcall | ⟨_, hcall, hid⟩)
        · cases hcall
        · cases hcall
          exact .inr ⟨i, rfl, (hg i).symm.trans hid⟩
      · rintro (hcall | ⟨_, hcall, hid⟩)
        · cases hcall
        · cases hcall
          exact .inr ⟨g i, rfl, (hg i).trans hid⟩
    | pass other => exact Iff.rfl
    | fail other => exact Iff.rfl
    | absorb calls => exact Iff.rfl
  simp only [List.mem_map, exists_exists_and_eq_and, hfails]

end Collector

/-- A line further down has its issue further down. -/
theorem Matcher.issueIn_moved (m : Matcher) (path : Path) (fix : Option String) (number size : Nat) (l : Line) :
    m.issueIn path fix (l.moved number size) = (m.issueIn path fix l).map (Issue.moved number size) := by
  unfold Line.moved
  by_cases hnumber : number ≤ l.number
  · have hissue : ∀ found : Regex.Match, m.issueAt path fix { l with number := l.number + 1, offset := l.offset + size } found =
        (m.issueAt path fix l found).moved number size := by
      intro found
      have hline : (m.issueAt path fix l found).location.line = l.number := rfl
      rw [Issue.moved, hline, if_pos hnumber]
      simp only [issueAt, Issue.ofRule, Nat.add_right_comm _ size]
    rw [if_pos hnumber, issueIn, issueIn, Option.map_map]
    exact congrArg (fun make => Option.map make _) (funext hissue)
  · have hissue : ∀ found : Regex.Match, (m.issueAt path fix l found).moved number size = m.issueAt path fix l found :=
      fun found => if_neg hnumber
    rw [if_neg hnumber, issueIn, Option.map_map]
    exact congrArg (fun make => Option.map make _) (funext fun found => (hissue found).symm)

/-- The file with a line more between two parts of it. -/
def SourceFile.insert (f : SourceFile) (before line after : List Char) : SourceFile :=
  { f with content := before ++ line ++ '\n' :: after }

namespace Rules

/-- The line that imports a declaration. -/
def importLine (declaration : String) : List Char :=
  ("import " ++ declaration).toList

/-- No built-in expression matches in a line that follows the advice of a built-in rule. -/
theorem find?_importLine {declaration : String} (h : declaration ∈ [atomsImport, moleculesImport]) {e : Rule × Regex}
    (he : e ∈ expressions) : e.2.find? (importLine declaration) = none := by
  have hall : ([atomsImport, moleculesImport].all fun declaration =>
      expressions.all fun e => (e.2.find? (importLine declaration)).isNone) = true := by
    cbv
  exact Option.isNone_iff_eq_none.1 (List.all_eq_true.1 (List.all_eq_true.1 hall declaration h) e he)

/-- The line that follows the advice holds the declaration, and none that another rule asks for. -/
theorem contains_importLine : ∀ e ∈ expressions, ∀ declaration ∈ e.1.kind.declaration?, '\n' ∉ importLine declaration ∧
    declaration ∈ [atomsImport, moleculesImport] ∧ e.1.suggestedFix = some ("Add: import " ++ declaration) ∧
    ∀ e' ∈ expressions, ∀ declaration' ∈ e'.1.kind.declaration?,
      Text.contains declaration'.toList (importLine declaration) = (e'.1.id == e.1.id) := by
  decide

end Rules

/-- The lines of a file with a line more are that line and those that were there, those below it further down. -/
theorem SourceFile.exists_lines_insert {f : SourceFile} {before line after : List Char} (hopens : Opens before)
    (hcontent : f.content = before ++ after) (hline : '\n' ∉ line) :
    ∃ ls l ls', (f.insert before line after).lines = ls ++ l :: ls' ∧ l.text = line ∧
      ls ++ ls' = f.lines.map (Line.moved (before.count '\n' + 1) (byteLength line + 1)) := by
  obtain ⟨ls, hearlier, hlines⟩ := exists_numberedLines_append hopens
  have hkept : ls.map (Line.moved (before.count '\n' + 1) (byteLength line + 1)) = ls := by
    refine (List.map_congr_left fun l hl => ?_).trans (List.map_id ls)
    have hle := hearlier l hl
    exact if_neg (by omega)
  have hsplit : Text.lines (line ++ '\n' :: after) = line :: Text.lines after := by
    rw [Text.lines, split_append_cons, split_of_not_mem hline]
    rfl
  refine ⟨ls, ⟨before.count '\n' + 1, byteLength before, line⟩,
    numberLines (before.count '\n' + 1 + 1) (byteLength before + (byteLength line + 1)) (Text.lines after), ?_, rfl, ?_⟩
  · rw [SourceFile.lines, insert, List.append_assoc, hlines, hsplit]
    rfl
  · rw [SourceFile.lines, hcontent, hlines, List.map_append, hkept, map_moved_numberLines _ (Nat.le_refl _)]

namespace Matcher

variable {m : Matcher} {f : SourceFile} {before line after : List Char}

/-- Where a line more has neither a match nor a declaration, what a rule on text says only moves down. -/
theorem calls_insert (hlines : m.GoesByLines) (hopens : Opens before) (hcontent : f.content = before ++ after)
    (hline : '\n' ∉ line) (hissue : m.regex.find? line = none)
    (hdeclaration : ∀ pattern declaration, m.rule.kind = .importRequirement pattern declaration →
      Text.contains declaration.toList line = false) :
    m.calls (f.insert before line after) =
      (m.calls f).map (Call.mapIssue (Issue.moved (before.count '\n' + 1) (byteLength line + 1))) := by
  obtain ⟨ls, l, ls', hinsert, rfl, hmoved⟩ := SourceFile.exists_lines_insert hopens hcontent hline
  have hcalls : m.lineCalls f.relativePath (f.insert before l.text after).lines =
      (m.lineCalls f.relativePath f.lines).map
        (Call.mapIssue (Issue.moved (before.count '\n' + 1) (byteLength l.text + 1))) := by
    rw [hinsert, lineCalls_insert hissue hdeclaration, hmoved]
    refine lineCalls_of_forall₂ (R := fun l₁ l₂ => l₂ = l₁.moved (before.count '\n' + 1) (byteLength l.text + 1)) ?_ ?_
      (List.forall₂_map_right_iff.2 (List.forall₂_same.2 fun _ _ => rfl))
    · rintro l₁ _ fix rfl
      exact m.issueIn_moved f.relativePath fix _ _ l₁
    · rintro _ declaration _ l₁ _ rfl
      unfold Line.moved
      split
      · rfl
      · rfl
  exact calls_of_lineCalls_map hlines rfl rfl hcalls

/-- An issue that an import requirement records is that of the first use. -/
theorem head?_of_record_mem {pattern declaration : String} (hkind : m.rule.kind = .importRequirement pattern declaration)
    {path : Path} {ls : List Line} {i : Issue} (hi : .record i ∈ m.lineCalls path ls) :
    (ls.filterMap (m.issueIn path (some (m.declarationFix declaration)))).head? = some i := by
  simp only [lineCalls, hkind] at hi
  cases huse : (ls.filterMap (m.issueIn path (some (m.declarationFix declaration)))).head? with
  | none =>
    simp only [huse] at hi
    split at hi
    · cases List.mem_singleton.1 hi
    · exact absurd hi List.not_mem_nil
  | some use =>
    simp only [huse] at hi
    split at hi
    · cases List.mem_singleton.1 hi
    · rw [Call.record.inj (List.mem_singleton.1 hi)]

/-- An import requirement that records an issue passes once a line more holds the declaration. -/
theorem calls_insert_declaration (hlines : m.GoesByLines) (hopens : Opens before) (hcontent : f.content = before ++ after)
    (hline : '\n' ∉ line) (hissue : m.regex.find? line = none) {pattern declaration : String}
    (hkind : m.rule.kind = .importRequirement pattern declaration) (hdeclared : Text.contains declaration.toList line = true)
    {i : Issue} (hi : .record i ∈ m.calls f) :
    i.suggestedFix = some (m.declarationFix declaration) ∧ m.calls (f.insert before line after) = [.pass m.rule.id] := by
  obtain ⟨ls, l, ls', hinsert, rfl, hmoved⟩ := SourceFile.exists_lines_insert hopens hcontent hline
  rw [calls_eq_lineCalls hlines] at hi ⊢
  by_cases happlies : m.rule.appliesTo f.kind = true
  · rw [if_pos happlies] at hi
    have huse := head?_of_record_mem hkind hi
    have hnone : m.issueIn f.relativePath (some (m.declarationFix declaration)) l = none := by
      rw [issueIn, hissue, Option.map_none]
    have hadvised : (f.insert before l.text after).lines.filterMap (m.issueIn f.relativePath (some (m.declarationFix declaration))) =
        (f.lines.filterMap (m.issueIn f.relativePath (some (m.declarationFix declaration)))).map
          (Issue.moved (before.count '\n' + 1) (byteLength l.text + 1)) := by
      rw [hinsert, List.filterMap_append, List.filterMap_cons_none hnone, ← List.filterMap_append, hmoved, List.filterMap_map,
        List.map_filterMap]
      exact List.filterMap_congr fun l₁ _ => m.issueIn_moved f.relativePath _ _ _ l₁
    have hany : ((f.insert before l.text after).lines.any fun l => Text.contains declaration.toList l.text) = true := by
      rw [hinsert]
      exact List.any_eq_true.2 ⟨l, List.mem_append_right _ (List.mem_cons_self ..), hdeclared⟩
    constructor
    · obtain ⟨l₁, -, hl₁⟩ := List.mem_filterMap.1 (List.mem_of_head? huse)
      obtain ⟨found, -, rfl⟩ := Option.map_eq_some_iff.1 hl₁
      rfl
    · refine (if_pos happlies).trans ?_
      simp only [lineCalls, hkind]
      rw [show (f.insert before l.text after).relativePath = f.relativePath from rfl, hadvised, List.head?_map, huse, hany]
      rfl
  · rw [if_neg happlies] at hi
    exact absurd hi List.not_mem_nil

end Matcher

namespace Checker

variable {c : Checker} {f : SourceFile}

/-- What a check finds out about a rule on text follows from the calls of its matcher. -/
theorem check_of_text {r : Rule} (hr : r ∈ c.registry.rules) (htext : r.kind.regex?.isSome = true) {calls : List Call}
    (hcalls : ((Matcher.ofRule? r).toList.flatMap fun m => m.calls f) = calls) :
    (c.check f .empty).issues.filter (fun i => i.ruleId = r.id) = calls.filterMap Call.issue? ∧
      (r.id ∈ (c.check f .empty).passed.ids ↔ .pass r.id ∈ calls) ∧
      (r.id ∈ (c.check f .empty).failed.ids ↔ ∃ call ∈ calls, call.Fails r.id) := by
  have hrule : r.calls f (checkSyntax c.parser f.kind f.content) = calls := (Rule.calls_of_text htext f _).trans hcalls
  rw [check, calls_eq_callsFor, ← hrule]
  exact runAll_callsFor hr f _

/-- Where the calls of a rule on text differ in their issues only, so do the issues that are recorded, and the rule passes and
fails alike. -/
theorem check_of_calls_map {r : Rule} (hr : r ∈ c.registry.rules) (htext : r.kind.regex?.isSome = true) {f' : SourceFile}
    {g : Issue → Issue} (hg : ∀ i, (g i).ruleId = i.ruleId)
    (hcalls : ∀ m ∈ Matcher.ofRule? r, m.calls f' = (m.calls f).map (Call.mapIssue g)) :
    (c.check f' .empty).issues.filter (fun i => i.ruleId = r.id) =
        ((c.check f .empty).issues.filter fun i => i.ruleId = r.id).map g ∧
      (r.id ∈ (c.check f' .empty).passed.ids ↔ r.id ∈ (c.check f .empty).passed.ids) ∧
      (r.id ∈ (c.check f' .empty).failed.ids ↔ r.id ∈ (c.check f .empty).failed.ids) := by
  have hall : ((Matcher.ofRule? r).toList.flatMap fun m => m.calls f') =
      ((Matcher.ofRule? r).toList.flatMap fun m => m.calls f).map (Call.mapIssue g) := by
    rw [List.map_flatMap]
    exact List.flatMap_congr fun m hm => hcalls m (Option.mem_toList.1 hm)
  obtain ⟨hissues, hpassed, hfailed⟩ := check_of_text (f := f) hr htext rfl
  obtain ⟨hissues', hpassed', hfailed'⟩ := check_of_text (f := f') hr htext hall
  refine ⟨?_, ?_, ?_⟩
  · rw [hissues, hissues', filterMap_issue?_map]
  · rw [hpassed, hpassed', pass_mem_map_mapIssue]
  · rw [hfailed, hfailed', exists_fails_map_mapIssue hg]

/-- Where the line that a built-in import requirement advises is put in, the requirement passes. -/
theorem calls_advised (h : c.registry.IsBuiltin) {m : Matcher} (hm : m ∈ c.matchers) {before after : List Char}
    (hopens : Opens before) (hcontent : f.content = before ++ after) {pattern declaration : String}
    (hkind : m.rule.kind = .importRequirement pattern declaration) {i : Issue} (hi : .record i ∈ m.calls f) :
    i.suggestedFix = some ("Add: import " ++ declaration) ∧
      m.calls (f.insert before (Rules.importLine declaration) after) = [.pass m.rule.id] := by
  obtain ⟨b, he, hsame, hdeclaration⟩ := exists_requirement h hm hkind
  obtain ⟨hline, hlisted, hfix, hcontains⟩ := Rules.contains_importLine _ he declaration hdeclaration
  have hdeclared : Text.contains declaration.toList (Rules.importLine declaration) = true :=
    (hcontains _ he declaration hdeclaration).trans (beq_self_eq_true b.id)
  have hadvice : m.declarationFix declaration = "Add: import " ++ declaration := by
    obtain ⟨required, hrule⟩ := hsame
    have hsuggested : m.rule.suggestedFix = b.suggestedFix := by rw [hrule]
    rw [Matcher.declarationFix, hsuggested, hfix]
    rfl
  rw [← hadvice]
  exact Matcher.calls_insert_declaration (goesByLines h hm) hopens hcontent hline (Rules.find?_importLine hlisted he) hkind hdeclared hi

/-- What another built-in rule says only moves down. -/
theorem calls_beside_advised (h : c.registry.IsBuiltin) {m m' : Matcher} (hm : m ∈ c.matchers) (hm' : m' ∈ c.matchers)
    (hne : m'.rule.id ≠ m.rule.id) {before after : List Char} (hopens : Opens before) (hcontent : f.content = before ++ after)
    {pattern declaration : String} (hkind : m.rule.kind = .importRequirement pattern declaration) :
    m'.calls (f.insert before (Rules.importLine declaration) after) =
      (m'.calls f).map
        (Call.mapIssue (Issue.moved (before.count '\n' + 1) (byteLength (Rules.importLine declaration) + 1))) := by
  obtain ⟨b, he, hsame, hdeclaration⟩ := exists_requirement h hm hkind
  obtain ⟨hline, hlisted, -, hcontains⟩ := Rules.contains_importLine _ he declaration hdeclaration
  obtain ⟨_, hexpression, -⟩ := exists_expression h hm'
  refine Matcher.calls_insert (goesByLines h hm') hopens hcontent hline (Rules.find?_importLine hlisted hexpression) ?_
  intro pattern' declaration' hkind'
  obtain ⟨b', he', hsame', hdeclaration'⟩ := exists_requirement h hm' hkind'
  rw [hcontains _ he' declaration' hdeclaration', beq_eq_false_iff_ne, ← hsame'.id_eq, ← hsame.id_eq]
  exact hne

/-- Following the advice to import settles it. Where a built-in import requirement records an issue, the issue names the import;
with that line put in, at the start of the file or after any line feed, the rule records nothing and passes. Every other
built-in rule on text records the same issues, those at the line or below it one line down, and passes or fails as before. -/
theorem check_advised (h : c.registry.IsBuiltin) {before after : List Char} (hopens : Opens before)
    (hcontent : f.content = before ++ after) {advised : Rule} (hadvised : advised ∈ c.registry.rules)
    {pattern declaration : String} (hkind : advised.kind = .importRequirement pattern declaration) {i : Issue}
    (hi : i ∈ (c.check f .empty).issues) (hid : i.ruleId = advised.id) :
    let now := c.check f .empty
    let line := Rules.importLine declaration
    let next := c.check (f.insert before line after) .empty
    i.suggestedFix = some ("Add: import " ++ declaration) ∧
      (∀ i' ∈ next.issues, i'.ruleId ≠ advised.id) ∧ advised.id ∈ next.passed.ids ∧ advised.id ∉ next.failed.ids ∧
      ∀ r ∈ c.registry.rules, r.kind.regex?.isSome = true → r ≠ advised →
        next.issues.filter (fun i => i.ruleId = r.id) =
          (now.issues.filter fun i => i.ruleId = r.id).map (Issue.moved (before.count '\n' + 1) (byteLength line + 1)) ∧
        (r.id ∈ next.passed.ids ↔ r.id ∈ now.passed.ids) ∧ (r.id ∈ next.failed.ids ↔ r.id ∈ now.failed.ids) := by
  intro now line next
  have htext : advised.kind.regex?.isSome = true := by
    rw [hkind]
    rfl
  have hrecord : Call.record i ∈ (Matcher.ofRule? advised).toList.flatMap fun m => m.calls f := by
    have hfiltered : i ∈ now.issues.filter fun i => i.ruleId = advised.id :=
      List.mem_filter.2 ⟨hi, decide_eq_true hid⟩
    rw [(check_of_text hadvised htext rfl).1] at hfiltered
    exact mem_filterMap_issue?.1 hfiltered
  obtain ⟨m, hm, hcall⟩ := List.mem_flatMap.1 hrecord
  have hof : Matcher.ofRule? advised = some m := Option.mem_toList.1 hm
  have hmatcher : m ∈ c.matchers := mem_matchers_iff.2 ⟨advised, hadvised, hof⟩
  obtain rfl := Matcher.rule_of_ofRule? hof
  obtain ⟨hfix, hpass⟩ := calls_advised h hmatcher hopens hcontent hkind hcall
  have hcalls : ((Matcher.ofRule? m.rule).toList.flatMap fun m => m.calls (f.insert before line after)) = [.pass m.rule.id] := by
    rw [hof, Option.toList_some, List.flatMap_singleton, hpass]
  obtain ⟨hissues, hpassed, hfailed⟩ := check_of_text hadvised htext hcalls
  refine ⟨hfix, fun i' hi' hrule => ?_, hpassed.2 (List.mem_singleton.2 rfl), fun hfails => ?_, fun r hr hregex hne => ?_⟩
  · have hmem : i' ∈ next.issues.filter fun i => i.ruleId = m.rule.id := List.mem_filter.2 ⟨hi', decide_eq_true hrule⟩
    rw [hissues] at hmem
    exact absurd hmem List.not_mem_nil
  · obtain ⟨call, hcall, hfails⟩ := hfailed.1 hfails
    obtain rfl := List.mem_singleton.1 hcall
    rcases hfails with hcall | ⟨i, hcall, -⟩
    · cases hcall
    · cases hcall
  · refine check_of_calls_map hr hregex (Issue.ruleId_moved _ _) fun m' hm' => ?_
    obtain rfl := Matcher.rule_of_ofRule? hm'
    have hmatcher' : m' ∈ c.matchers := mem_matchers_iff.2 ⟨m'.rule, hr, hm'⟩
    exact calls_beside_advised h hmatcher hmatcher' (fun heq => hne (Registry.eq_of_id hadvised hr heq)) hopens hcontent hkind

/-- A component that uses atoms. -/
def buttonComponent : List Char :=
  "\ntempl A() \x7b\n\t@atoms.Button(\"go\")\n\x7d\n".toList

/-- A template that uses atoms without importing them. -/
def usesAtoms : SourceFile :=
  ⟨⟨"a.templ"⟩, .templ, "package a\n".toList ++ buttonComponent⟩

/-- The template with the import. -/
def importsAtoms : SourceFile :=
  ⟨⟨"a.templ"⟩, .templ, ("package a\n" ++ "import \"github.com/niiniyare/ruun/views/components/atoms\"\n").toList ++ buttonComponent⟩

/-- A checker with the built-in rules. -/
def builtinChecker : Checker :=
  ofRegistry Rules.registry .acceptAll

/-- After its first line the template takes the import that its issue names. -/
theorem check_advised_atoms :
    builtinChecker.registry.IsBuiltin ∧
    usesAtoms.insert "package a\n".toList (Rules.importLine Rules.atomsImport) buttonComponent = importsAtoms ∧
    (∃ i ∈ (builtinChecker.check usesAtoms .empty).issues, i.ruleId = "namespace-import-present" ∧
      i.suggestedFix = some ("Add: import " ++ Rules.atomsImport)) ∧
    (∀ i ∈ (builtinChecker.check importsAtoms .empty).issues, i.ruleId ≠ "namespace-import-present") ∧
    "namespace-import-present" ∈ (builtinChecker.check importsAtoms .empty).passed.ids ∧
    "namespace-import-present" ∉ (builtinChecker.check importsAtoms .empty).failed.ids := by
  have hregistry : builtinChecker.registry = Rules.registry := registry_ofRegistry _ _
  have hbuiltin : builtinChecker.registry.IsBuiltin := by
    rw [hregistry]
    exact Registry.isBuiltin_of_preset .recommended rfl
  have hrule : Rules.atomsImported ∈ builtinChecker.registry.rules := by
    rw [hregistry]
    decide
  have hmatches : (Rules.use "atoms").Matches usesAtoms.content := by
    have hfound : ((Rules.use "atoms").find? usesAtoms.content).isSome = true := by cbv
    exact Regex.isSome_find?_iff.1 hfound
  have hfails : Rules.atomsImported.Fails usesAtoms.kind (checkSyntax builtinChecker.parser usesAtoms.kind usesAtoms.content)
      usesAtoms.content :=
    ⟨by decide, Rules.use "atoms", Rules.compile_expression (Rules.atomsImported, Rules.use "atoms") (by simp [Rules.expressions]) _ rfl,
      hmatches, by decide⟩
  obtain ⟨i, hi, hid⟩ := (exists_issue_iff hrule).2 ⟨by decide, hfails⟩
  have hopens : Opens "package a\n".toList := .inr ⟨"package a".toList, by decide⟩
  have hcontent : usesAtoms.content = "package a\n".toList ++ buttonComponent := rfl
  have hinsert : usesAtoms.insert "package a\n".toList (Rules.importLine Rules.atomsImport) buttonComponent = importsAtoms := by
    decide
  obtain ⟨hfix, hissues, hpassed, hfailed, -⟩ :=
    check_advised hbuiltin hopens hcontent hrule rfl hi hid
  rw [hinsert] at hissues hpassed hfailed
  exact ⟨hbuiltin, hinsert, ⟨i, hi, hid, hfix⟩, hissues, hpassed, hfailed⟩

end Checker

end ComponentAudit
