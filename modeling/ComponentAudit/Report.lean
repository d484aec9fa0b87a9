import ComponentAudit.Collector
import ComponentAudit.Registry
import ComponentAudit.Timestamp

/-!
# Reports

What a scan hands over in the end: the issues, their counts by severity, the rules that passed and failed, and what had to
be left out. A report is written as a record and, for people, as a digest.
-/

namespace ComponentAudit

open Data

/-- A rule left out of a scan because its pattern cannot be used. -/
structure InvalidRule where
  ruleId : String
  reason : String
  deriving Repr, DecidableEq

namespace InvalidRule

/-- The record of a rule left out. -/
def toValue (r : InvalidRule) : Value :=
  .record [("rule_id", .text r.ruleId), ("reason", .text r.reason)]

/-- The rule left out that a value gives. -/
def read (v : Value) : Except ReadError InvalidRule := do
  let fields ← v.asFields "struct InvalidRule"
    [("rule_id", Value.check Value.asText), ("reason", Value.check Value.asText)]
  return ⟨← Value.need fields "rule_id" Value.asText, ← Value.need fields "reason" Value.asText⟩

end InvalidRule

/-- The counts of a report. -/
structure Summary where
  error : Nat
  warning : Nat
  info : Nat
  /-- All issues. -/
  total : Nat
  passedRules : Nat
  failedRules : Nat
  deriving Repr, DecidableEq

namespace Summary

/-- The number of issues of a severity. -/
def countOf (s : Severity) (issues : List Issue) : Nat :=
  issues.countP fun i => i.severity = s

/-- The counts of some issues and of the rules that passed and failed. -/
def count (issues : List Issue) (passed failed : List String) : Summary :=
  { error := countOf .error issues
    warning := countOf .warning issues
    info := countOf .info issues
    total := issues.length
    passedRules := passed.length
    failedRules := failed.length }

/-- The record of the counts. -/
def toValue (s : Summary) : Value :=
  .record [("error", .int s.error), ("warning", .int s.warning), ("info", .int s.info), ("total", .int s.total),
    ("passed_rules", .int s.passedRules), ("failed_rules", .int s.failedRules)]

/-- The names of the counts. -/
def names : List String := ["error", "warning", "info", "total", "passed_rules", "failed_rules"]

/-- The counts that a value gives. -/
def read (v : Value) : Except ReadError Summary := do
  let fields ← v.asFields "struct Summary" (names.map fun name => (name, Value.check Value.asCount))
  return { error := ← Value.need fields "error" Value.asCount
           warning := ← Value.need fields "warning" Value.asCount
           info := ← Value.need fields "info" Value.asCount
           total := ← Value.need fields "total" Value.asCount
           passedRules := ← Value.need fields "passed_rules" Value.asCount
           failedRules := ← Value.need fields "failed_rules" Value.asCount }

end Summary

/-- The result of a scan. -/
structure Report where
  /-- When the report was made. -/
  timestamp : Timestamp
  /-- The root that was scanned. -/
  root : Path
  /-- The session that the scan belongs to. -/
  session : Option String
  /-- How many files were looked at. -/
  filesChecked : Nat
  /-- The issues, in the order of their discovery. -/
  issues : List Issue
  summary : Summary
  /-- The rules of the scan. -/
  rules : List Rule
  /-- The rules that passed somewhere and failed nowhere. -/
  passed : List String
  /-- The rules that failed somewhere. -/
  failed : List String
  /-- The rules left out. -/
  invalidRules : List InvalidRule
  /-- The files that could not be read. -/
  skippedFiles : List Path
  deriving Repr, DecidableEq

namespace Report

/-- What a report says apart from what a collector holds. -/
structure Frame where
  root : Path
  session : Option String := none
  filesChecked : Nat := 0
  rules : List Rule := []
  invalidRules : List InvalidRule := []
  skippedFiles : List Path := []
  deriving Repr, DecidableEq

/-- The report of what a collector holds. A rule that failed for one file has failed, whatever it did elsewhere. -/
def ofCollector (frame : Frame) (timestamp : Timestamp) (c : Collector) : Report :=
  let passed := (c.passed.difference c.failed).ids
  let failed := c.failed.ids
  { timestamp
    root := frame.root
    session := frame.session
    filesChecked := frame.filesChecked
    issues := c.issues
    summary := .count c.issues passed failed
    rules := frame.rules
    passed
    failed
    invalidRules := frame.invalidRules
    skippedFiles := frame.skippedFiles }

/-- A scan passes if it found no issue. -/
def isPassing (r : Report) : Bool :=
  r.summary.total = 0

/-- The issues of a severity. -/
def bySeverity (r : Report) (s : Severity) : List Issue :=
  r.issues.filter fun i => i.severity = s

/-- The rule of an identifier. -/
def rule? (r : Report) (id : String) : Option Rule :=
  r.rules.find? fun rule => rule.id = id

/-- A field that holds a list unless it is empty. -/
def listField (name : String) : List Value → List (String × Value)
  | [] => []
  | items => [(name, .list items)]

/-- The record of a report. -/
def toValue (r : Report) : Value :=
  .record <|
    [("timestamp", .text r.timestamp.text), ("root_path", .text r.root.text)] ++
    optionalField "session_id" (r.session.map .text) ++
    [("files_checked", .int r.filesChecked), ("issues", .list (r.issues.map Issue.toValue)),
      ("summary", r.summary.toValue), ("rules", .list (r.rules.map Rule.toValue)),
      ("passed_rule_ids", .list (r.passed.map .text)), ("failed_rule_ids", .list (r.failed.map .text))] ++
    listField "invalid_rules" (r.invalidRules.map InvalidRule.toValue) ++
    listField "skipped_files" (r.skippedFiles.map fun p => .text p.text)

/-- The paths in the record of a report. -/
def paths (r : Report) : List Path :=
  r.root :: (r.issues.map (·.location.file) ++ r.skippedFiles)

/-- Whether the record says all there is: text stands for a path only if the path is UTF-8. -/
def isText (r : Report) : Bool :=
  r.paths.all (·.isText)

/-- The paths of a report are UTF-8 if the root is, the files of the issues and those that were passed over. -/
theorem isText_iff {r : Report} : r.isText = true ↔ r.root.isText = true ∧
    (∀ i ∈ r.issues, i.location.file.isText = true) ∧ ∀ p ∈ r.skippedFiles, p.isText = true := by
  rw [isText, List.all_eq_true, paths, List.forall_mem_cons, List.forall_mem_append, List.forall_mem_map]

/-- The point in time that a value gives. -/
def readTimestamp : Value → Except ReadError Timestamp
  | .text s => (Timestamp.parse s.toList).mapError fun e => .invalidMoment e.message
  | v => .error (.invalidType v "an RFC 3339 formatted date and time string")

/-- The checks of a report's fields. -/
def checks : List (String × (Value → Except ReadError Unit)) :=
  [("timestamp", Value.check readTimestamp), ("root_path", Value.check Value.asPath),
    ("session_id", Value.check (Value.asOption Value.asText)), ("files_checked", Value.check Value.asCount),
    ("issues", Value.check (Value.asList Issue.read)), ("summary", Value.check Summary.read),
    ("rules", Value.check (Value.asList (Rule.read .json))),
    ("passed_rule_ids", Value.check (Value.asList Value.asText)),
    ("failed_rule_ids", Value.check (Value.asList Value.asText)),
    ("invalid_rules", Value.check (Value.asList InvalidRule.read)),
    ("skipped_files", Value.check (Value.asList Value.asPath))]

/-- The report that a value gives. -/
def read (v : Value) : Except ReadError Report := do
  let fields ← v.asFields "struct Report" checks
  let timestamp ← Value.need fields "timestamp" readTimestamp
  let root ← Value.need fields "root_path" Value.asPath
  let session ← Value.orElse fields "session_id" (Value.asOption Value.asText) none
  let filesChecked ← Value.need fields "files_checked" Value.asCount
  let issues ← Value.need fields "issues" (Value.asList Issue.read)
  let summary ← Value.need fields "summary" Summary.read
  let rules ← Value.need fields "rules" (Value.asList (Rule.read .json))
  let passed ← Value.need fields "passed_rule_ids" (Value.asList Value.asText)
  let failed ← Value.need fields "failed_rule_ids" (Value.asList Value.asText)
  let invalidRules ← Value.orElse fields "invalid_rules" (Value.asList InvalidRule.read) []
  let skippedFiles ← Value.orElse fields "skipped_files" (Value.asList Value.asPath) []
  return { timestamp, root, session, filesChecked, issues, summary, rules, passed, failed, invalidRules, skippedFiles }

/-! ## The digest -/

/-- How many errors the digest lists. -/
def errorLimit : Nat := 5

/-- The line above and below the digest. -/
def ruler : String := String.ofList (List.replicate 60 '=')

/-- A failed rule in the digest, with its description if the rule is known and has one. -/
def failedLine (r : Report) (id : String) : String :=
  match r.rule? id with
  | some rule =>
    if rule.description.isEmpty then s!"  - {rule.name}" else s!"  - {rule.name}: {rule.description}"
  | none => s!"  - {id}"

/-- An error in the digest, with the fix on a line of its own. -/
def errorLines (i : Issue) : List String :=
  s!"  {i.location.file.text}:{i.location.line} - {i.message}" ::
    match i.suggestedFix with
    | some fix => [s!"    fix: {fix}"]
    | none => []

/-- A part of the digest that is left out, with the blank line before it, where it has nothing to list. -/
def optionalPart (title : String) (entries : List String) : List String :=
  if entries.isEmpty then [] else "" :: title :: entries

/-- The lines of the digest. -/
def digestLines (r : Report) : List String :=
  [ruler, "MIGRATION VALIDATION REPORT", ruler, s!"Project path: {r.root.text}"] ++
  (match r.session with
    | some session => [s!"Migration session: {session}"]
    | none => []) ++
  [s!"Files checked: {r.filesChecked}", s!"Validated at: {r.timestamp.shown}", "",
    if r.isPassing then "VALIDATION PASSED - no issues found"
    else s!"VALIDATION FAILED - found {r.summary.total} issue(s)",
    "", "Issues by severity:", s!"  errors:   {r.summary.error}", s!"  warnings: {r.summary.warning}",
    s!"  info:     {r.summary.info}", "", "Rules:", s!"  passed: {r.summary.passedRules}",
    s!"  failed: {r.summary.failedRules}"] ++
  optionalPart "Failed rules:" (r.failed.map r.failedLine) ++
  optionalPart s!"Critical issues (first {errorLimit}):"
    (((r.bySeverity .error).take errorLimit).flatMap errorLines) ++
  optionalPart "Skipped rules (invalid pattern):" (r.invalidRules.map fun i => s!"  - {i.ruleId}: {i.reason}") ++
  (if r.skippedFiles.isEmpty then [] else ["", s!"Unreadable files: {r.skippedFiles.length}"]) ++
  [ruler]

/-- The digest of a report. -/
def digest (r : Report) : String :=
  String.join (r.digestLines.map (· ++ "\n"))

end Report

end ComponentAudit
