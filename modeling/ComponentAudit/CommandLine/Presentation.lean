import ComponentAudit.CommandLine.Arguments
import ComponentAudit.Data.Json
import ComponentAudit.FileTree
import ComponentAudit.Report
import ComponentAudit.Snippet

/-!
# Showing reports

A report as it is printed, in each of the formats. Two of them may not show it to its end: a report with a path that is not
UTF-8 has no JSON text, and an issue that is too far to the right in its line cannot be drawn.
-/

namespace ComponentAudit.CommandLine

/-- Lines of output. -/
def printed (lines : List String) : String :=
  String.join (lines.map (· ++ "\n"))

/-- An issue over the lines that it is about, if its file can be read. -/
def drawn? (files : FileTree) (root : Path) (i : Issue) : Option String :=
  match files.readText (root / i.location.file) with
  | .ok content => some (printed (Diagnostic.ofIssue i content).drawing)
  | .error _ => none

/-- Whether an issue can be shown over its lines, or without them because its file cannot be read. -/
def isDrawable (files : FileTree) (root : Path) (i : Issue) : Bool :=
  match files.readText (root / i.location.file) with
  | .ok content => (Diagnostic.ofIssue i content).isDrawable
  | .error _ => true

/-- The report as JSON. A report with a path that is not UTF-8 has none. -/
def jsonText? (r : Report) : Option String :=
  if r.isText then some (Data.Json.pretty 0 r.toValue) else none

/-- What keeps a report from being shown to its end. -/
inductive Obstacle where
  /-- The report has no JSON text. -/
  | noText
  /-- An issue cannot be drawn. -/
  | noRoom
  deriving Repr, DecidableEq

/-- What is printed of a report, and why it is not all. -/
structure Showing where
  output : String
  obstacle : Option Obstacle := none
  deriving Repr, DecidableEq

/-- A report as it is printed. A drawing that has no room breaks off what is printed there. -/
def shown (files : FileTree) (r : Report) : OutputFormat → Showing
  | .text => { output := printed (r.issues.map (·.format true)) ++ r.digest }
  | .json => match jsonText? r with
    | some text => { output := printed [text] }
    | none => { output := "", obstacle := some .noText }
  | .compact => { output := printed (r.issues.map (·.line)) }
  | .rich =>
    let issues := r.issues.takeWhile (isDrawable files r.root)
    let output := printed (issues.map fun i => (drawn? files r.root i).getD i.format)
    if issues.length = r.issues.length then { output := output ++ r.digest }
    else { output, obstacle := some .noRoom }

end ComponentAudit.CommandLine
