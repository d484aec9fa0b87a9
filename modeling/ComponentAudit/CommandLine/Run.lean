import ComponentAudit.CommandLine.ConfigSource
import ComponentAudit.CommandLine.Help
import ComponentAudit.CommandLine.Listing
import ComponentAudit.CommandLine.Presentation
import ComponentAudit.CommandLine.Starter
import ComponentAudit.Scan

/-!
# Runs

What comes of a run: what it prints and logs, the files after it, and its exit status. The status of a check says whether
there were issues, or whether the tree could not be walked, however the report is shown, as long as it can be shown and
written in the form that is asked for.
-/

namespace ComponentAudit.CommandLine

/-- How a run ends. -/
inductive ExitStatus where
  | success
  /-- There are issues. -/
  | issues
  /-- The tree cannot be walked; there is no report. -/
  | noWalk
  /-- The arguments are wrong. -/
  | usage
  /-- Something else went wrong. -/
  | failure
  /-- The run broke off. -/
  | brokenOff
  deriving Repr, DecidableEq

/-- The number of a status. -/
def ExitStatus.code : ExitStatus → Nat
  | success => 0
  | issues => 1
  | noWalk => 2
  | usage => 2
  | failure => 3
  | brokenOff => 101

/-- What comes of a run. -/
structure Outcome where
  status : ExitStatus
  output : String := ""
  log : List LogEntry := []
  /-- The text of an error. -/
  error : Option String := none
  /-- The files after the run. -/
  files : FileTree

namespace Outcome

/-- A run that failed. -/
def failed (env : Environment) (e : Failure) (log : List LogEntry := []) (output : String := "") : Outcome :=
  { status := .failure, output, log, error := some s!"Error: {e.message}", files := env.files }

end Outcome

/-! ## Checking -/

/-- The identifiers of a list with commas between. -/
def listedIds (list : String) : List String :=
  ((Text.split ',' list.toList).map Text.trim).filterMap fun id => if id = [] then none else some (String.ofList id)

/-- What is logged about identifiers that are asked for. -/
def unknownLog (r : Registry) (ids : List String) : List LogEntry :=
  ids.filterMap fun id => if (r.get? id).isNone then some (.warning s!"Unknown rule: {id}") else none

/-- The rules that are asked for, and what is logged about them. -/
def chosenRules (r : Registry) : Option String → Registry × List LogEntry
  | none => (r, [])
  | some list => (r.retain (listedIds list), unknownLog r (listedIds list))

/-- The plan of a check. -/
def planOf (c : Config) (r : Registry) (a : CheckArguments) : ScanPlan :=
  let start : ScanPlan := { root := a.path }
  let plan := start.withSettings c.scan
  { plan with
    excluded := plan.excluded ++ a.excluded
    registry := r
    session := a.session
    workers := a.jobs.getD plan.workers }

/-- The scan of a check, and what is logged before it runs. -/
def prepare (env : Environment) (source : ConfigSource) (a : CheckArguments) : Except Failure (Scan × List LogEntry) := do
  let c ← source.load env
  let (registry, log) := chosenRules (← activeRules c) a.rules
  let scan ← ((planOf c registry a).prepare env.here).mapError .plan
  return (scan, log ++ scan.preparationLog ++
    [.info s!"Validating {scan.root.text} with {scan.registry.size} rules"])

/-- What is logged by a check that fails before it runs. -/
def failureLog (env : Environment) (source : ConfigSource) (a : CheckArguments) : List LogEntry :=
  match source.load env with
  | .error _ => []
  | .ok c => match activeRules c with
    | .error _ => []
    | .ok r => (chosenRules r a.rules).2

/-- The status of a report. -/
def statusOf (r : Report) : ExitStatus :=
  if r.isPassing then .success else .issues

/-- Writes a report that has been shown to a file, if asked for. -/
def save (env : Environment) (a : CheckArguments) (log : List LogEntry) (output : String) (r : Report) : Outcome :=
  match a.output with
  | none => { status := statusOf r, output, log, files := env.files }
  | some path => match jsonText? r with
    | none => .failed env .notText log output
    | some text => match env.files.write (env.here / path) text.toUTF8.toList with
      | .error e => .failed env (.output path e) log output
      | .ok files =>
        { status := statusOf r, output, log := log ++ [.info s!"Report written to {path.text}"], files }

/-- What comes of a report: it is shown and, if asked for, written to a file. -/
def deliver (env : Environment) (a : CheckArguments) (log : List LogEntry) (r : Report) : Outcome :=
  match shown env.files r a.format with
  | ⟨output, none⟩ => save env a log output r
  | ⟨output, some .noText⟩ => .failed env .notText log output
  | ⟨output, some .noRoom⟩ => { status := .brokenOff, output, log, files := env.files }

/-- Checks a project. -/
def check (env : Environment) (source : ConfigSource) (a : CheckArguments) (order : Nat → List Nat := List.range) :
    Outcome :=
  match prepare env source a with
  | .error e => .failed env e (source.log ++ failureLog env source a)
  | .ok (scan, log) =>
    let result := scan.run env.files env.now order
    let log := source.log ++ log ++ scan.runLog env.files result
    match result with
    | .error e => { status := .noWalk, log, error := some e.message, files := env.files }
    | .ok r => deliver env a log r

/-! ## Other commands -/

/-- Lists the rules of the project. -/
def listRules (env : Environment) (source : ConfigSource) : Outcome :=
  match source.load env >>= activeRules with
  | .error e => .failed env e source.log
  | .ok r => { status := .success, output := printed (listing r), log := source.log, files := env.files }

/-- Writes a configuration to start from. One that is there is kept unless it is to be replaced. -/
def init (env : Environment) (force : Bool) : Outcome :=
  let path := env.here / Starter.path
  if env.files.has path ∧ force = false then .failed env (.configExists Starter.path)
  else match env.files.write path Starter.text.toUTF8.toList with
    | .error e => .failed env (.starter Starter.path e)
    | .ok files => { status := .success, output := printed Starter.notice, files }

/-- The source of the configuration of a call. -/
def sourceOf (env : Environment) (i : Invocation) : ConfigSource :=
  .find env i.project i.config

/-- What comes of a call. -/
def runInvocation (env : Environment) (i : Invocation) (order : Nat → List Nat := List.range) : Outcome :=
  match i.command with
  | .check a => check env (sourceOf env i) a order
  | .listRules => listRules env (sourceOf env i)
  | .init force => init env force

/-- What comes of a run with some arguments. -/
def run (env : Environment) (args : List String) (order : Nat → List Nat := List.range) : Outcome :=
  match Invocation.parse args with
  | .ok i => runInvocation env i order
  | .error .usage => { status := .usage, error := some (printed topHelp), files := env.files }
  | .error (.help topic) => { status := .success, output := printed (helpOf topic), files := env.files }
  | .error .version => { status := .success, output := printed [versionLine], files := env.files }

end ComponentAudit.CommandLine
