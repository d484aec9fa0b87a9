import ComponentAudit.Proofs.Builtins
import ComponentAudit.Proofs.Faults
import ComponentAudit.Proofs.Naming
import ComponentAudit.Proofs.Paths

/-!
# One line for each issue

In the compact format, a report is a line for each of its issues and nothing else, as long as what the issues say holds no line
feed. Nothing takes line feeds out of it. They come from the path of a file, from the identifier or the message of a rule, or from
the name of a token that a source file lacks (`CommandLine.check_compact`); no other diagnostic has one
(`SyntaxFailure.isLine_message`, `GoSource.isLine_message`).
-/

namespace ComponentAudit

open Collector Pattern Text

/-! ## Texts without line feeds -/

namespace Text

/-- A text without a line feed. -/
def IsLine (s : String) : Prop :=
  '\n' ∉ s.toList

instance (s : String) : Decidable (IsLine s) :=
  inferInstanceAs (Decidable ('\n' ∉ s.toList))

theorem isLine_append {s t : String} : IsLine (s ++ t) ↔ IsLine s ∧ IsLine t := by
  rw [IsLine, String.toList_append, List.mem_append, not_or]
  rfl

theorem IsLine.append {s t : String} (hs : IsLine s) (ht : IsLine t) : IsLine (s ++ t) :=
  isLine_append.2 ⟨hs, ht⟩

theorem isLine_nat (n : Nat) : IsLine (toString n) := by
  intro hfeed
  have hdigit : '\n'.isDigit = true := Nat.isDigit_of_mem_toDigits (by decide) (Nat.le_refl 10) (Nat.toList_repr ▸ hfeed)
  cases hdigit

theorem isLine_ofList {s : List Char} : IsLine (String.ofList s) ↔ '\n' ∉ s := by
  rw [IsLine, String.toList_ofList]

end Text

namespace CommandLine

theorem toList_printed_cons (l : String) (ls : List String) :
    (printed (l :: ls)).toList = l.toList ++ '\n' :: (printed ls).toList := by
  rw [printed, List.map_cons, String.join_cons, String.toList_append, String.toList_append, List.append_assoc]
  rfl

/-- The lines of printed texts are the lines of each, and an empty one after the last line feed. -/
theorem lines_printed (ls : List String) :
    lines (printed ls).toList = (ls.flatMap fun l => lines l.toList) ++ [[]] := by
  induction ls with
  | nil => rfl
  | cons l ls ih => rw [toList_printed_cons, lines, split_append_cons, ← lines, ← lines, ih, List.flatMap_cons, List.append_assoc]

/-- There are as many lines as printed texts exactly if no text has a line feed. -/
theorem length_lines_printed_iff (ls : List String) :
    (lines (printed ls).toList).length = ls.length + 1 ↔ ∀ l ∈ ls, IsLine l := by
  have hlength : ∀ l : String, (lines l.toList).length = l.toList.count '\n' + 1 := fun l => length_split '\n' l.toList
  have hline : ∀ l : String, IsLine l ↔ l.toList.count '\n' = 0 := fun l => List.count_eq_zero.symm
  have hsum : ∀ ls : List String, ls.length ≤ (ls.flatMap fun l => lines l.toList).length ∧
      ((ls.flatMap fun l => lines l.toList).length = ls.length ↔ ∀ l ∈ ls, IsLine l) := by
    intro ls
    induction ls with
    | nil => simp
    | cons l ls ih =>
      rw [List.flatMap_cons, List.length_append, hlength, List.length_cons, List.forall_mem_cons, hline, ← ih.2]
      obtain ⟨hle, -⟩ := ih
      omega
  rw [lines_printed, List.length_append, List.length_singleton, Nat.add_right_cancel_iff]
  exact (hsum ls).2

/-- Then the lines are the printed texts. -/
theorem lines_printed_of_isLine {ls : List String} (h : ∀ l ∈ ls, IsLine l) :
    lines (printed ls).toList = ls.map String.toList ++ [[]] := by
  have hlines : ∀ l ∈ ls, lines l.toList = [l.toList] := fun l hl => split_of_not_mem (h l hl)
  rw [lines_printed, List.flatMap_congr hlines, ← List.map_eq_flatMap]

end CommandLine

/-! ## What issues say -/

theorem Severity.isLine_name (s : Severity) : IsLine s.name := by
  cases s with
  | error => decide
  | warning => decide
  | info => decide

/-- The line of an issue is one if path, identifier of the rule and message are. -/
theorem Issue.isLine_line (i : Issue) :
    IsLine i.line ↔ IsLine i.location.file.text ∧ IsLine i.ruleId ∧ IsLine i.message := by
  have hcolon : IsLine (toString ":") := by decide
  have hspace : IsLine (toString ": ") := by decide
  have hopening : IsLine (toString " [") := by decide
  have hclosing : IsLine (toString "] ") := by decide
  have hname : IsLine (toString i.severity.name) := i.severity.isLine_name
  simp only [line, isLine_append, isLine_nat, hcolon, hspace, hopening, hclosing, hname, and_true, and_assoc]
  exact Iff.rfl

/-! ## Diagnostics -/

/-- What is wrong with the outline of a template is said in a line. -/
theorem Template.OutlineError.isLine_message (e : OutlineError) : IsLine e.message := by
  have hcolon : IsLine (toString ":") := by decide
  unfold message
  cases e with
  | unbalancedClosing p =>
    have hopening : IsLine (toString "unbalanced closing brace at ") := by decide
    simp only [isLine_append, isLine_nat, hcolon, hopening, and_self]
  | unbalancedOpening unclosed p =>
    have hopening : IsLine (toString "unbalanced opening brace: ") := by decide
    have hplace : IsLine (toString " unclosed, first opened at ") := by decide
    simp only [isLine_append, isLine_nat, hcolon, hopening, hplace, and_self]
  | invalidDeclaration number =>
    have hopening : IsLine (toString "invalid component declaration at line ") := by decide
    simp only [isLine_append, isLine_nat, hopening, and_self]

/-- Why a file fails its syntax check is said in a line, unless the parser says otherwise. -/
theorem SyntaxFailure.isLine_message (failure : SyntaxFailure) :
    IsLine failure.message ↔ ∀ e, failure = .parse e → IsLine e.message := by
  have hcolon : IsLine (toString ":") := by decide
  cases failure with
  | parse e =>
    have hspace : IsLine (toString ": ") := by decide
    simp only [message, ParseError.text, isLine_append, isLine_nat, hcolon, hspace, and_self, true_and, parse.injEq, forall_eq']
    exact Iff.rfl
  | outline e => exact iff_of_true e.isLine_message fun _ he => by cases he
  | encoding line column =>
    have hclosing : IsLine (toString ": illegal UTF-8 encoding") := by decide
    exact iff_of_true ((((isLine_nat _).append hcolon).append (isLine_nat _)).append hclosing) fun _ he => by cases he

namespace GoSource

/-- What is shown of a text is part of its first line. -/
theorem isLine_snippet (text : List Char) : IsLine (snippet text) := by
  rw [snippet, isLine_ofList]
  intro hfeed
  have hmem : '\n' ∈ text.takeWhile (· ≠ '\n') := by
    have htrim := List.mem_of_mem_take hfeed
    rw [trim, trimEnd, List.mem_reverse] at htrim
    have hstart := List.mem_reverse.1 ((List.dropWhile_suffix _).subset htrim)
    exact (List.dropWhile_suffix _).subset hstart
  have hne := List.mem_takeWhile_imp hmem
  exact of_decide_eq_true hne rfl

/-- A text lacks a token whose name has a line feed, before anything else in it is wrong. -/
def LacksLineFeed (text : List Char) : Prop :=
  ∃ root n, tree? text = some root ∧ root.firstError? = some n ∧ n.status = .missing ∧ ¬IsLine n.kind

theorem Misplaced.isLine_message {found : String} (h : IsLine found) (fault : Misplaced) : IsLine (fault.message found) := by
  have hfound : IsLine (toString found) := h
  have hclosing : IsLine (toString "'") := by decide
  unfold message
  cases fault with
  | beforePackage =>
    have hopening : IsLine (toString "expected 'package', found '") := by decide
    simp only [isLine_append, hfound, hopening, hclosing, and_self]
  | importAfterDeclaration =>
    have hmessage : IsLine "imports must appear before other declarations" := by decide
    simp only [hmessage]
  | noDeclaration =>
    have hopening : IsLine (toString "non-declaration statement outside function body: '") := by decide
    simp only [isLine_append, hfound, hopening, hclosing, and_self]

/-- What is out of place at the top level is said in a line. -/
theorem isLine_checkTopLevel {root : SyntaxTree} {e : ParseError} (h : checkTopLevel root = .error e) : IsLine e.message := by
  unfold checkTopLevel at h
  dsimp only at h
  split at h
  · cases h
    exact (by decide : IsLine noPackage.message)
  · cases h
  · split at h
    · cases h
      exact Misplaced.isLine_message (isLine_snippet _) _
    · cases h

/-- What a node stands for is said in a line, unless it is a missing token whose name has a line feed. -/
theorem isLine_complaint (n : SyntaxNode) : IsLine (complaint n).message ↔ (n.status = .missing → IsLine n.kind) := by
  have hclosing : IsLine (toString "'") := by decide
  have hfound : IsLine (if snippet n.text = "" then "unexpected end of input" else s!"unexpected '{snippet n.text}'") := by
    have hopening : IsLine (toString "unexpected '") := by decide
    split
    · exact (by decide : IsLine "unexpected end of input")
    · exact (hopening.append (isLine_snippet _)).append hclosing
  unfold complaint
  cases hstatus : n.status with
  | missing =>
    have hopening : IsLine (toString "expected '") := by decide
    have hmessage : IsLine (s!"expected '{n.kind}'") ↔ IsLine n.kind := by
      rw [isLine_append, isLine_append]
      exact (and_iff_left hclosing).trans (and_iff_right hopening)
    exact hmessage.trans ⟨fun hname _ => hname, fun hname => hname rfl⟩
  | error => exact iff_of_true hfound fun hmissing => by cases hmissing
  | sound => exact iff_of_true hfound fun hmissing => by cases hmissing

/-- Why a tree is refused is said in a line, unless the first thing wrong in it is a missing token whose name has a line feed. -/
theorem isLine_checkTree {root : SyntaxTree} {e : ParseError} (h : checkTree root = .error e) :
    IsLine e.message ↔ ∀ n, root.firstError? = some n → n.status = .missing → IsLine n.kind := by
  rw [checkTree] at h
  cases hfirst : root.firstError? with
  | none =>
    rw [hfirst] at h
    exact iff_of_true (isLine_checkTopLevel h) fun _ hn => by cases hn
  | some n =>
    rw [hfirst] at h
    cases h
    rw [isLine_complaint]
    simp only [Option.some.injEq, forall_eq']

/-- Why a source file is refused is said in a line, unless it lacks a token whose name has a line feed. -/
theorem isLine_message {text : List Char} {e : ParseError} (h : parser.parse text = .error e) :
    IsLine e.message ↔ ¬LacksLineFeed text := by
  cases htree : tree? text with
  | none =>
    rw [parse_of_none htree] at h
    cases h
    refine iff_of_true (by decide : IsLine "parser produced no syntax tree") ?_
    rintro ⟨root, n, hroot, -⟩
    rw [htree] at hroot
    cases hroot
  | some root =>
    rw [parse_of_tree htree] at h
    rw [isLine_checkTree h]
    simp only [LacksLineFeed, htree, Option.some.injEq, exists_and_left, exists_eq_left', not_exists, not_and, not_not]

end GoSource

/-! ## Issues of a report -/

/-- The message of an issue is that of its rule; that of a rule on syntax goes on with why the file fails its syntax check. -/
theorem Rule.message_of_mem_calls {r : Rule} {f : SourceFile} {outcome : Except SyntaxFailure Unit} {i : Issue}
    (h : .record i ∈ r.calls f outcome) : (r.kind ≠ .syntaxCheck ∧ i.message = r.message) ∨
      ∃ failure, r.kind = .syntaxCheck ∧ outcome = .error failure ∧ i.message = s!"{r.message}: {failure.message}" := by
  rcases of_mem_calls h with ⟨hkind, hcall⟩ | ⟨-, hcall⟩ | ⟨m, hm, rfl, hcall⟩
  · cases outcome with
    | ok u => cases hcall
    | error failure =>
      cases hcall
      exact Or.inr ⟨failure, hkind, rfl, rfl⟩
  · cases outcome with
    | ok u => cases hcall
    | error failure => cases hcall
  · obtain ⟨pattern, hpattern, -⟩ := Option.bind_eq_some_iff.1 hm
    obtain ⟨offset, text, found, fix, rfl⟩ := Matcher.exists_issue_of_mem_calls hcall
    refine Or.inl ⟨fun hkind => ?_, rfl⟩
    rw [hkind] at hpattern
    cases hpattern

/-- Why the bytes of a file fail their syntax check is said in a line, unless they are those of a source file that lacks a token
whose name has a line feed. -/
theorem isLine_syntaxOutcome {kind : FileKind} {bytes : List UInt8} {failure : SyntaxFailure}
    (h : syntaxOutcome GoSource.parser kind bytes = .error failure) :
    IsLine failure.message ↔ ¬(kind = .go ∧ ∃ text, Utf8.decode? bytes = some text ∧ GoSource.LacksLineFeed text) := by
  rw [SyntaxFailure.isLine_message]
  unfold syntaxOutcome at h
  cases hdecode : Utf8.decode? bytes with
  | none =>
    rw [hdecode] at h
    cases h
    refine iff_of_true (fun _ he => by cases he) ?_
    rintro ⟨-, text, htext, -⟩
    cases htext
  | some text =>
    rw [hdecode] at h
    simp only [Option.some.injEq, exists_eq_left']
    cases kind with
    | go =>
      simp only [checkSyntax] at h
      cases hparse : GoSource.parser.parse text with
      | ok u =>
        rw [hparse] at h
        cases h
      | error e =>
        rw [hparse] at h
        cases h
        simp only [SyntaxFailure.parse.injEq, forall_eq', true_and]
        exact GoSource.isLine_message hparse
    | templ =>
      simp only [checkSyntax] at h
      cases hcheck : Template.check text with
      | ok u =>
        rw [hcheck] at h
        cases h
      | error e =>
        rw [hcheck] at h
        cases h
        exact iff_of_true (fun _ he => by cases he) fun hlacks => by cases hlacks.1

/-- A source file, by its bytes, that lacks a token whose name has a line feed. -/
def LacksLineFeed (kind : FileKind) (bytes : List UInt8) : Prop :=
  kind = .go ∧ ∃ text, Utf8.decode? bytes = some text ∧ GoSource.LacksLineFeed text

/-- The line of an issue that a check finds is one if the path of the file and the identifier and the message of the rule are,
and a rule on syntax does not complain of a missing token whose name has a line feed. -/
theorem Checker.isLine_of_mem_checkBytes {c : Checker} (hparser : c.parser = GoSource.parser) {root path : Path}
    {kind : FileKind} {bytes : List UInt8} {i : Issue} (h : i ∈ (c.checkBytes root path kind bytes).issues) :
    ∃ rule ∈ c.registry.rules, rule.id = i.ruleId ∧ (IsLine i.line ↔ IsLine (path.relativeTo root).text ∧ IsLine rule.id ∧
      IsLine rule.message ∧ (rule.kind = .syntaxCheck → ¬LacksLineFeed kind bytes)) := by
  obtain ⟨rule, hrule, hid, hown⟩ := mem_issues_checkBytes.1 h
  obtain ⟨-, hfile⟩ := Rule.severity_and_file_of_mem_calls hown
  refine ⟨rule, hrule, hid, ?_⟩
  rw [Issue.isLine_line, hfile, hid]
  refine and_congr Iff.rfl (and_congr Iff.rfl ?_)
  rcases Rule.message_of_mem_calls hown with ⟨hkind, hmessage⟩ | ⟨failure, hkind, houtcome, hmessage⟩
  · rw [hmessage]
    exact (and_iff_left fun hsyntax => absurd hsyntax hkind).symm
  · have hcolon : IsLine (toString ": ") := by decide
    rw [hparser] at houtcome
    rw [hmessage, isLine_append, isLine_append, and_iff_left hcolon]
    refine and_congr Iff.rfl ?_
    exact (isLine_syntaxOutcome houtcome).trans ⟨fun hlacks _ => hlacks, fun hlacks => hlacks hkind⟩

namespace CommandLine

variable {env : Environment} {source : ConfigSource} {a : CheckArguments} {c : Config} {g : Registry} {order : Nat → List Nat}
  {r : Report}

/-- A check that comes to a report shows it, whatever becomes of the file that it is to be written to. -/
theorem output_check (hload : source.load env = .ok c) (hrules : activeRules c = .ok g)
    (hr : (planOf c (chosenRules g a.rules).1 a).report env.here env.files env.now order = .ok r) :
    (check env source a order).output = (shown env.files r a.format).output := by
  unfold ScanPlan.report at hr
  cases hprepare : (planOf c (chosenRules g a.rules).1 a).prepare env.here with
  | error e =>
    rw [hprepare] at hr
    cases hr
  | ok s =>
    rw [hprepare] at hr
    have hrun : s.run env.files env.now order = .ok r := hr
    have hscan := prepare_of_rules a hload hrules
    rw [hprepare] at hscan
    rw [check, hscan]
    simp only [Except.mapError, Except.map, hrun]
    exact output_deliver env a _ r

/-- The compact format has a line for each issue, exactly as long as no issue has a line feed in its path, its rule or its
message. For a project with its configuration, whose check comes to a report, the output has as many lines as the report has
issues exactly if each issue is written in a line, and then its lines are those of the issues. The line of an issue is one unless
the path of its file has a line feed, or the identifier or the message of its rule has, or the rule is one on syntax and the file
is a source file that lacks a token whose name has one. -/
theorem check_compact (h : EachOnce order) (hload : source.load env = .ok c) (hrules : activeRules c = .ok g)
    (hr : (planOf c (chosenRules g a.rules).1 a).report env.here env.files env.now order = .ok r) (hformat : a.format = .compact) :
    let output := lines (check env source a order).output.toList
    (output.length = r.issues.length + 1 ↔ ∀ i ∈ r.issues, IsLine i.line) ∧
      ((∀ i ∈ r.issues, IsLine i.line) → output = (r.issues.map fun i => i.line.toList) ++ [[]]) ∧
      ∀ i ∈ r.issues, ∃ rule ∈ (chosenRules g a.rules).1.rules, ∃ (file : Candidate) (bytes : List UInt8),
        rule.id = i.ruleId ∧ env.files.read file.path = .ok bytes ∧ i.location.file = file.path.relativeTo r.root ∧
        (IsLine i.line ↔ IsLine i.location.file.text ∧ IsLine rule.id ∧ IsLine rule.message ∧
          (rule.kind = .syntaxCheck → ¬LacksLineFeed file.kind bytes)) := by
  have hprinted : (shown env.files r .compact).output = printed (r.issues.map (·.line)) := rfl
  intro output
  have houtput : output = lines (printed (r.issues.map (·.line))).toList := by
    rw [← hprinted, ← hformat, ← output_check hload hrules hr]
  refine ⟨?_, fun hlines => ?_, fun i hi => ?_⟩
  · have hlength : (r.issues.map (·.line)).length = r.issues.length := List.length_map _
    rw [houtput, ← hlength, length_lines_printed_iff, List.forall_mem_map]
  · rw [houtput, lines_printed_of_isLine (List.forall_mem_map.2 hlines), List.map_map]
    rfl
  · obtain ⟨s, candidates, hprepare, -, rfl⟩ := ScanPlan.reportOn_of_report h hr
    have hchecker := ScanPlan.checker_of_prepare hprepare
    obtain ⟨file, -, bytes, hread, hissue, hfile⟩ := Scan.exists_candidate_of_mem_issues hi
    rw [hchecker] at hissue
    obtain ⟨rule, hrule, hid, hline⟩ := Checker.isLine_of_mem_checkBytes rfl hissue
    rw [← hfile] at hline
    exact ⟨rule, hrule, file, bytes, hid, hread, hfile, hline⟩

/-- A project of one source file, and a file beside it. -/
def smallProject (content beside : List UInt8) : Environment where
  files := .directory [("c", .file beside), ("p", .directory [("a.go", .file content)])]
  here := ⟨"/"⟩
  now := default

/-- A check of the project with one of the rules. -/
def oneRule (id : String) : CheckArguments :=
  { path := some ⟨"p"⟩, rules := some id, format := .compact }

/-- A check of the small project with a rule that fails on its file comes to a report, with an issue, and all issues are those of
the rule in the file. -/
theorem exists_report_smallProject {content : List UInt8} (beside : List UInt8) (customRules : List Rule) {id : String}
    {rule : Rule}
    (hchosen : (chosenRules g (some id)).1.rules = [rule]) (hkind : rule.kind ≠ .compilation)
    (hfails : rule.Fails .go (syntaxOutcome GoSource.parser .go content) (Utf8.decodeLossy content)) :
    ∃ r, (planOf { customRules } (chosenRules g (some id)).1 (oneRule id)).report ⟨"/"⟩ (smallProject content beside).files
        default = .ok r ∧ (∃ i, i ∈ r.issues) ∧
      ∀ i ∈ r.issues, i.location.file = ⟨"a.go"⟩ ∧ i.ruleId = rule.id ∧
        (IsLine i.line ↔ IsLine rule.id ∧ IsLine rule.message ∧ (rule.kind = .syntaxCheck → ¬LacksLineFeed .go content)) := by
  obtain ⟨s, hprepare, hwalker, hchecker, hroot⟩ : ∃ s,
      (planOf { customRules } (chosenRules g (some id)).1 (oneRule id)).prepare ⟨"/"⟩ = .ok s ∧
      s.walker = { root := (⟨"/"⟩ : Path) / (⟨"p"⟩ : Path) } ∧
      s.checker = .ofRegistry (chosenRules g (some id)).1 GoSource.parser ∧ s.root = (⟨"/"⟩ : Path) / (⟨"p"⟩ : Path) :=
    ⟨_, rfl, rfl, rfl, rfl⟩
  have hplace : (⟨"/"⟩ : Path) / (⟨"p"⟩ : Path) = ⟨"/p"⟩ := by decide
  have hwalk : Walker.walk { root := ⟨"/p"⟩ } (smallProject content beside).files = [⟨⟨"/p/a.go"⟩, .go⟩].map .ok := by
    cbv
  have hread : (smallProject content beside).files.read ⟨"/p/a.go"⟩ = .ok content := by
    cbv
  have hrules : s.registry.rules = [rule] := by
    rw [← hchosen, Scan.registry, hchecker]
    rfl
  have hparser : s.checker.parser = GoSource.parser := by
    rw [hchecker]
    rfl
  rw [hplace] at hwalker hroot
  refine ⟨_, ScanPlan.report_of_walk default eachOnce_range hprepare (hwalker ▸ hwalk), ?_, fun i hi => ?_⟩
  · rw [List.map_singleton, hread]
    refine Scan.exists_issue_of_fails (List.mem_singleton_self _) (hrules ▸ List.mem_singleton_self _) hkind ?_
    rw [hparser]
    exact hfails
  · obtain ⟨file, hfile, bytes, hbytes, hissue, hlocation⟩ := Scan.exists_candidate_of_mem_issues hi
    obtain rfl := List.mem_singleton.1 hfile
    obtain rfl := Except.ok.inj (hread.symm.trans hbytes)
    obtain ⟨other, hother, hid, hline⟩ := Checker.isLine_of_mem_checkBytes hparser hissue
    obtain rfl := List.mem_singleton.1 (hrules ▸ hother : other ∈ [rule])
    have hrelative : (⟨"/p/a.go"⟩ : Path).relativeTo ⟨"/p"⟩ = ⟨"a.go"⟩ := by decide
    rw [hroot, hrelative] at hlocation hline
    rw [hline]
    have hpath : IsLine (⟨"a.go"⟩ : Path).text := by
      rw [Path.text_mk]
      decide
    exact ⟨hlocation, hid.symm, and_iff_right hpath⟩

/-- A rule on a forbidden pattern fails where a line of the text matches. -/
theorem fails_of_find? {rule : Rule} {pattern : String} {regex : Regex} {kind : FileKind} {outcome : Except SyntaxFailure Unit}
    {text line : List Char} (hkind : kind ∈ rule.fileKinds) (hpattern : rule.kind = .pattern pattern)
    (hregex : Matcher.compile pattern = .ok regex) (hline : line ∈ lines text) (hfound : (regex.find? line).isSome = true) :
    rule.Fails kind outcome text := by
  refine ⟨hkind, ?_⟩
  rw [hpattern]
  exact ⟨regex, hregex, line, hline, Regex.isSome_find?_iff.1 hfound⟩

/-- A project that looks up its theme. -/
def themedProject : Environment :=
  smallProject "theme.Get(" []

/-- The check of the project with the rule against that prints a line for each issue. -/
theorem check_compact_themed :
    EachOnce List.range ∧ ConfigSource.defaults.load themedProject = .ok {} ∧
    ∃ g r, activeRules {} = .ok g ∧
      (planOf {} (chosenRules g (some "no-dynamic-theme-lookup")).1 (oneRule "no-dynamic-theme-lookup")).report
        themedProject.here themedProject.files themedProject.now = .ok r ∧
      (∃ i, i ∈ r.issues) ∧
      lines (check themedProject .defaults (oneRule "no-dynamic-theme-lookup")).output.toList =
        (r.issues.map fun i => i.line.toList) ++ [[]] := by
  have hload : ConfigSource.defaults.load themedProject = .ok {} := rfl
  have hrules : activeRules {} = .ok Rules.registry := rfl
  have hchosen : (chosenRules Rules.registry (some "no-dynamic-theme-lookup")).1.rules = [Rules.themeLookup] := by decide
  have hregex := Rules.compile_expression (Rules.themeLookup, Rules.themeCall) (by simp [Rules.expressions]) _ rfl
  have hline : "theme.Get(".toList ∈ lines "theme.Get(".toList := by decide
  have hfound : (Rules.themeCall.find? "theme.Get(".toList).isSome = true := by cbv
  have hfails : Rules.themeLookup.Fails .go (syntaxOutcome GoSource.parser .go "theme.Get(")
      (Utf8.decodeLossy "theme.Get(") := by
    rw [Utf8.decodeLossy_utf8]
    exact fails_of_find? (by decide) rfl hregex hline hfound
  obtain ⟨r, hr, hissue, hissues⟩ := exists_report_smallProject [] [] hchosen (by decide) hfails
  have hlines : ∀ i ∈ r.issues, IsLine i.line := by
    intro i hi
    obtain ⟨-, -, hline⟩ := hissues i hi
    exact hline.2 ⟨by decide, by decide, fun hkind => absurd hkind (by decide)⟩
  have hcompact := check_compact eachOnce_range (a := oneRule "no-dynamic-theme-lookup") hload hrules hr rfl
  exact ⟨eachOnce_range, hload, _, r, hrules, hr, hissue, hcompact.2.1 hlines⟩

/-- A configuration with a rule of its own, whose message has two lines. -/
def twoLineConfig : String :=
  "[[custom_rules]]\nid = \"old\"\nname = \"Old\"\nkind = \"pattern\"\npattern = \"old\"\nfile_kinds = [\"go\"]\n" ++
    "message = \"first\\nsecond\"\n"

/-- The rule of the configuration. -/
def twoLineRule : Rule :=
  { id := "old", name := "Old", kind := .pattern "old", fileKinds := [.go], message := "first\nsecond" }

/-- A project that the rule fails on, with the configuration beside it. -/
def twoLineProject : Environment :=
  smallProject "old" twoLineConfig

set_option maxRecDepth 10000 in
theorem parse_twoLineConfig : Config.parse twoLineConfig.toList = .ok { customRules := [twoLineRule] } := by
  cbv

theorem load_twoLineProject :
    (ConfigSource.named ⟨"c"⟩).load twoLineProject = .ok { customRules := [twoLineRule] } := by
  have hplace : (⟨"/"⟩ : Path) / (⟨"c"⟩ : Path) = ⟨"/c"⟩ := by decide
  have hread : ∀ content beside, (smallProject content beside).files.read ⟨"/c"⟩ = .ok beside := by
    intro content beside
    cbv
  have htext : twoLineProject.files.readText (twoLineProject.here / (⟨"c"⟩ : Path)) = .ok twoLineConfig.toList := by
    rw [show twoLineProject.here = ⟨"/"⟩ from rfl, hplace]
    exact FileTree.readText_of_read (hread _ _) (Utf8.decode?_eq_some_iff.2 rfl)
  rw [ConfigSource.load, ConfigSource.path?]
  simp only [htext, parse_twoLineConfig]
  rfl

/-- The rules of the configuration. -/
def twoLineRegistry : Registry := ⟨Rules.builtin ++ [twoLineRule], by decide⟩

/-- Where the message of a rule has two lines, a check prints more lines than there are issues. -/
theorem run_compact_twoLine :
    (ConfigSource.named ⟨"c"⟩).load twoLineProject = .ok { customRules := [twoLineRule] } ∧
    activeRules { customRules := [twoLineRule] } = .ok twoLineRegistry ∧
    ∃ r, (planOf { customRules := [twoLineRule] } (chosenRules twoLineRegistry (some "old")).1 (oneRule "old")).report
        twoLineProject.here twoLineProject.files twoLineProject.now = .ok r ∧
      (lines (run twoLineProject ["--config", "c", "check", "p", "--rules", "old", "--format", "compact"]).output.toList).length ≠
        r.issues.length + 1 := by
  have hrules : activeRules { customRules := [twoLineRule] } = .ok twoLineRegistry := rfl
  have hchosen : (chosenRules twoLineRegistry (some "old")).1.rules = [twoLineRule] := by decide
  have hregex : Matcher.compile "old" = .ok (.sequence (Rules.letters "old")) :=
    Matcher.compile_eq_ok_iff.2 ⟨by decide, by cbv, by decide⟩
  have hfound : ((Regex.sequence (Rules.letters "old")).find? "old".toList).isSome = true := by cbv
  have hfails : twoLineRule.Fails .go (syntaxOutcome GoSource.parser .go "old")
      (Utf8.decodeLossy "old") := by
    rw [Utf8.decodeLossy_utf8]
    exact fails_of_find? (by decide) rfl hregex (by decide) hfound
  obtain ⟨r, hr, ⟨i, hi⟩, hreported⟩ := exists_report_smallProject twoLineConfig [twoLineRule] hchosen (by decide) hfails
  obtain ⟨-, -, hline⟩ := hreported i hi
  have hbroken : ¬IsLine i.line := fun h => absurd (hline.1 h).2.1 (by decide)
  have hparse : Invocation.parse ["--config", "c", "check", "p", "--rules", "old", "--format", "compact"] =
      .ok { command := .check (oneRule "old"), config := some ⟨"c"⟩ } := by decide
  have hrun := run_of_parse hparse rfl twoLineProject List.range
  refine ⟨load_twoLineProject, hrules, r, hr, fun hlength => hbroken ?_⟩
  have houtput : (check twoLineProject (.named ⟨"c"⟩) (oneRule "old")).output =
      (shown twoLineProject.files r (oneRule "old").format).output := output_check load_twoLineProject hrules hr
  have hsource : sourceOf twoLineProject { command := .check (oneRule "old"), config := some ⟨"c"⟩ } = .named ⟨"c"⟩ := rfl
  have hshown : (shown twoLineProject.files r (oneRule "old").format).output = printed (r.issues.map (·.line)) := rfl
  have hissues : (r.issues.map (·.line)).length = r.issues.length := List.length_map _
  rw [hrun, hsource, houtput, hshown, ← hissues, length_lines_printed_iff] at hlength
  exact hlength _ (List.mem_map_of_mem hi)

end CommandLine

end ComponentAudit
