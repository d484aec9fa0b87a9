import ComponentAudit.Checker
import ComponentAudit.GoSource
import ComponentAudit.Log
import ComponentAudit.Walk

/-!
# Scans

A scan walks a tree, checks each file into a collector of its own and puts the collectors together in the order of the
walk. Several workers may check the files in any order of their own: what counts is where a file stands in the walk.
-/

namespace ComponentAudit

/-- Why there is no scan, or no report. Two things more may keep a scan from running that do not come up here: the working
directory is given, and workers, of which only the turns count, can always be started. -/
inductive ScanError where
  | walk (error : WalkError)
  | glob (error : GlobError)
  deriving Repr, DecidableEq

namespace ScanError

/-- The text of the error. -/
def message : ScanError → String
  | walk e => e.message
  | glob e => s!"Invalid glob pattern: {e.message}"

/-- The name of the error in diagnostics. -/
def code : ScanError → String
  | walk _ => "migration_guard::walk"
  | glob _ => "migration_guard::glob"

/-- What to do about the error. -/
def help : ScanError → String
  | walk _ => "check that the project root exists and is readable"
  | glob _ => "exclude patterns use glob syntax, e.g. **/*_templ.go"

end ScanError

/-- What is asked of a scan. -/
structure ScanPlan where
  /-- The directory to scan; the working directory if there is none. -/
  root : Option Path := none
  registry : Registry := .empty
  parser : SourceParser := GoSource.parser
  excludedDirs : Option (List String) := none
  /-- Globs of paths to pass over. -/
  excluded : List String := []
  respectGitignore : Bool := false
  /-- The number of workers; none and one are the same. -/
  workers : Nat := 0
  session : Option String := none

/-- A scan that is ready to run. -/
structure Scan where
  root : Path
  walker : Walker
  checker : Checker
  workers : Nat
  session : Option String

namespace ScanPlan

/-- A plan with the settings of a project. A root that is asked for counts more than theirs. -/
def withSettings (p : ScanPlan) (s : ScanSettings) : ScanPlan :=
  { p with
    root := some (p.root.getD s.root)
    excludedDirs := some s.excludedDirs
    excluded := p.excluded ++ s.excluded
    respectGitignore := s.respectGitignore
    workers := s.parallelism.getD p.workers }

/-- The directory to scan, seen from the working directory. -/
def absoluteRoot (p : ScanPlan) (here : Path) : Path :=
  here / p.root.getD ⟨"."⟩

/-- The scan of a plan. -/
def prepare (p : ScanPlan) (here : Path) : Except ScanError Scan := do
  let root := p.absoluteRoot here
  let globs ← (p.excluded.mapM Glob.parse).mapError .glob
  return {
    root
    walker := { root, excludedDirs := p.excludedDirs.getD defaultExcludedDirs, globs, gitIgnore := p.respectGitignore }
    checker := .ofRegistry p.registry p.parser
    workers := p.workers
    session := p.session }

end ScanPlan

/-- What became of a file. -/
inductive FileOutcome where
  | checked (found : Collector)
  | unreadable (path : Path)

/-- What is known after some files. -/
structure Tally where
  found : Collector
  filesChecked : Nat
  skippedFiles : List Path

namespace Tally

/-- Nothing is known yet. -/
def empty : Tally := ⟨.empty, 0, []⟩

/-- What is known after one more file. -/
def add (t : Tally) : FileOutcome → Tally
  | .checked found => { t with found := t.found.absorb found, filesChecked := t.filesChecked + 1 }
  | .unreadable path => { t with filesChecked := t.filesChecked + 1, skippedFiles := t.skippedFiles ++ [path] }

/-- One file after another, until the walk fails. -/
def oneByOne {ε : Type} (check : Candidate → FileOutcome) (t : Tally) : List (Except ε Candidate) → Except ε Tally
  | [] => .ok t
  | .error e :: _ => .error e
  | .ok c :: rest => oneByOne check (t.add (check c)) rest

/-- The outcome of a file, put where the file stands in the walk. -/
def finish (check : Candidate → FileOutcome) (candidates : List Candidate) (slots : List (Option FileOutcome)) (n : Nat) :
    List (Option FileOutcome) :=
  match candidates[n]? with
  | some c => slots.set n (some (check c))
  | none => slots

/-- All files once the walk has ended, finished in some order. -/
def atOnce {ε : Type} (check : Candidate → FileOutcome) (order : Nat → List Nat) (entries : List (Except ε Candidate)) :
    Except ε Tally := do
  let candidates ← entries.mapM id
  let slots := (order candidates.length).foldl (finish check candidates) (List.replicate candidates.length none)
  return (slots.filterMap id).foldl add empty

end Tally

namespace Scan

/-- The rules of a scan. -/
def registry (s : Scan) : Registry :=
  s.checker.registry

/-- Checks what was read of a file. -/
def checkRead (s : Scan) (c : Candidate) : Except FileError (List UInt8) → FileOutcome
  | .ok bytes => .checked (s.checker.checkBytes s.root c.path c.kind bytes)
  | .error _ => .unreadable (c.path.relativeTo s.root)

/-- Reads and checks a file. -/
def checkFile (s : Scan) (files : FileTree) (c : Candidate) : FileOutcome :=
  s.checkRead c (files.read c.path)

/-- What is known after all files. -/
def tally (s : Scan) (files : FileTree) (order : Nat → List Nat) : Except WalkError Tally :=
  if 1 < s.workers then Tally.atOnce (s.checkFile files) order (s.walker.walk files)
  else Tally.oneByOne (s.checkFile files) .empty (s.walker.walk files)

/-- The report of what is known. -/
def report (s : Scan) (now : Timestamp) (t : Tally) : Report :=
  .ofCollector
    { root := s.root
      session := s.session
      filesChecked := t.filesChecked
      rules := s.registry.rules
      invalidRules := s.checker.invalidRules
      skippedFiles := t.skippedFiles }
    now t.found

/-- The report of a scan, or why there is none. With several workers, the files are finished in the given order. -/
def run (s : Scan) (files : FileTree) (now : Timestamp) (order : Nat → List Nat := List.range) : Except ScanError Report :=
  ((s.tally files order).map (s.report now)).mapError .walk

end Scan

namespace ScanPlan

/-- The report of a plan that is made ready and run. -/
def report (p : ScanPlan) (here : Path) (files : FileTree) (now : Timestamp) (order : Nat → List Nat := List.range) :
    Except ScanError Report := do
  (← p.prepare here).run files now order

end ScanPlan

namespace Scan

/-! ## The log -/

/-- What is logged when the rules are made ready. -/
def preparationLog (s : Scan) : List LogEntry :=
  s.checker.invalidRules.map fun r => .warning s!"Invalid regex in rule {r.ruleId}: {r.reason}"

/-- What is logged about a file. -/
def fileLog (files : FileTree) (c : Candidate) : Option LogEntry :=
  match files.read c.path with
  | .ok _ => none
  | .error e => some (.warning s!"Failed to read {c.path.text}: {e.message}")

/-- The candidates of a walk before it fails. -/
def reached (s : Scan) (files : FileTree) : List Candidate :=
  ((s.walker.walk files).takeWhile Except.isOk).filterMap Except.toOption

/-- What is logged by a run with a result. Several workers start once the walk has ended, one checks files on the way. -/
def runLog (s : Scan) (files : FileTree) (result : Except ScanError Report) : List LogEntry :=
  let candidates := s.reached files
  let started := .info s!"Starting validation at {s.root.text} with {s.registry.size} rules"
  let found := .info s!"Found {candidates.length} files, checking with {s.workers} workers"
  let checked := candidates.filterMap (fileLog files)
  match result with
  | .ok r =>
    [started] ++ (if 1 < s.workers then [found] else []) ++ checked ++
      [.info s!"Validation complete: {r.summary.total} issues in {r.filesChecked} files"]
  | .error _ => [started] ++ if 1 < s.workers then [] else checked

end Scan

end ComponentAudit
