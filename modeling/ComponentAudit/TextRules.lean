import ComponentAudit.Collector
import ComponentAudit.Pattern.Compile
import ComponentAudit.Pattern.Size
import ComponentAudit.Registry
import ComponentAudit.Report
import ComponentAudit.Source

/-!
# Rules on text

Forbidden patterns are looked for line by line, and every line that matches is an issue. An import requirement looks at a
file as a whole: if it uses something, it has to declare it. What a rule has to say about a file is a list of calls on a
collector. A rule whose pattern cannot be used is left out of the scan.
-/

namespace ComponentAudit

open Pattern Text

/-- A rule on text with its regular expression. -/
structure Matcher where
  rule : Rule
  regex : Regex

namespace Matcher

/-- The regular expression of a pattern, or why there is none. -/
def compile (pattern : String) : Except String Regex :=
  if pattern.isEmpty then .error "pattern is empty"
  else match Regex.ofPattern pattern.toList with
    | .ok r =>
      if r.size ≤ Regex.sizeLimit then .ok r
      else .error s!"Compiled regex exceeds size limit of {Regex.sizeLimit} bytes."
    | .error e => .error (e.message pattern.toList)

/-- The matchers of some rules, and the rules that are left out. -/
def ofRules : List Rule → List Matcher × List InvalidRule
  | [] => ([], [])
  | rule :: rest =>
    let (matchers, invalid) := ofRules rest
    match rule.kind.regex? with
    | none => (matchers, invalid)
    | some pattern => match compile pattern with
      | .ok regex => (⟨rule, regex⟩ :: matchers, invalid)
      | .error reason => (matchers, ⟨rule.id, reason⟩ :: invalid)

/-- The issue of a match within a text of the file that starts at a byte offset. -/
def issue (m : Matcher) (f : SourceFile) (offset : Nat) (text : List Char) (found : Regex.Match)
    (fix : Option String) : Issue :=
  let before := text.take found.start
  let matched := (text.drop found.start).take found.length
  .ofRule m.rule.id m.rule.severity (f.locate (offset + byteLength before) (byteLength matched)) m.rule.message
    (String.ofList matched) fix

/-- The issues of a forbidden pattern: one for every line that matches, at its first match. -/
def forbidden (m : Matcher) (f : SourceFile) : List Issue :=
  f.lines.filterMap fun line =>
    (m.regex.find? line.text).map fun found => m.issue f line.offset line.text found m.rule.suggestedFix

/-- What a forbidden pattern has to say. A rule that is not required only shows where it is violated. -/
def forbid (m : Matcher) (f : SourceFile) : List Collector.Call :=
  let issues := m.forbidden f
  if issues.isEmpty ∧ m.rule.required then [.pass m.rule.id] else issues.map .record

/-- The fix for a missing declaration. -/
def declarationFix (m : Matcher) (declaration : String) : String :=
  m.rule.suggestedFix.getD s!"Add: import {declaration}"

/-- What an import requirement has to say: one issue if the file uses what it does not declare, at the first use. -/
def requireDeclaration (m : Matcher) (declaration : String) (f : SourceFile) : List Collector.Call :=
  match m.regex.find? f.content with
  | none => if m.rule.required then [.pass m.rule.id] else []
  | some usage =>
    if Text.contains declaration.toList f.content then [.pass m.rule.id]
    else [.record (m.issue f 0 f.content usage (some (m.declarationFix declaration)))]

/-- What a rule has to say about a file. -/
def calls (m : Matcher) (f : SourceFile) : List Collector.Call :=
  if m.rule.appliesTo f.kind then
    match m.rule.kind with
    | .pattern _ => m.forbid f
    | .importRequirement _ declaration => m.requireDeclaration declaration f
    | .syntaxCheck | .compilation => []
  else []

/-- What some rules have to say about a file. -/
def allCalls (matchers : List Matcher) (f : SourceFile) : List Collector.Call :=
  matchers.flatMap fun m => m.calls f

end Matcher

end ComponentAudit
