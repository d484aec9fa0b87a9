import ComponentAudit.Config
import ComponentAudit.Log
import ComponentAudit.Rules.Preset
import ComponentAudit.Scan
import ComponentAudit.Timestamp

/-!
# Where the configuration comes from

A file that is named counts most, then a file of the project, then one of the user; where there is none of them,
defaults hold. The configuration and its preset give the rules of a run.
-/

namespace ComponentAudit.CommandLine

/-- What a run finds around it. -/
structure Environment where
  files : FileTree
  /-- The working directory. -/
  here : Path
  /-- The directory of the user's configuration, if it is set. -/
  configDir : Option Path := none
  /-- The home directory. -/
  home : Option Path := none
  now : Timestamp

/-- Why a run has no result. -/
inductive Failure where
  | config (path : Path) (error : ConfigError)
  | unknownPreset (name : String)
  | duplicateRule (error : DuplicateId)
  | plan (error : ScanError)
  /-- The report has no JSON text. -/
  | notText
  /-- The report cannot be written. -/
  | output (path : Path) (error : FileError)
  /-- There is a configuration already. -/
  | configExists (path : Path)
  /-- The configuration cannot be written. -/
  | starter (path : Path) (error : FileError)

/-- The text of an error, and of the causes that it names. -/
def configErrorText : ConfigError → String
  | .unreadable path e => s!"Failed to read config file {path.text}: {e.message}: {e.message}"
  | .malformed p => s!"Failed to parse config: TOML parse error at line {p.line}, column {p.column}\n"
  | .schema (some p) e =>
    s!"Failed to parse config: TOML parse error at line {p.line}, column {p.column}\n{e.message}\n"
  | .schema none e => s!"Failed to parse config: {e.message}\n"

/-- The text of an error with its cause. -/
def scanErrorText : ScanError → String
  | .walk e => e.message
  | .glob e => s!"{(ScanError.glob e).message}: {e.message}"

/-- The text of a failure, from what was tried down to the cause. -/
def Failure.message : Failure → String
  | config path e => s!"Failed to load config: {path.text}: {configErrorText e}"
  | unknownPreset name => s!"Unknown preset {Text.quoted name} (expected recommended, strict or minimal)"
  | duplicateRule e => s!"Invalid rule configuration: {e.message}"
  | plan e => s!"Failed to build validator: {scanErrorText e}"
  | notText => "path contains invalid UTF-8 characters"
  | output path e => s!"Failed to write report: {path.text}: {e.message}"
  | configExists path => s!"Configuration file already exists at {path.text}. Use --force to overwrite."
  | starter path e => s!"Failed to write {path.text}: {e.message}"

/-- Where a configuration comes from. -/
inductive ConfigSource where
  /-- The file is named by an argument. -/
  | named (path : Path)
  /-- The file is in the project. -/
  | project (path : Path)
  /-- The file is the user's. -/
  | user (path : Path)
  /-- There is no file. -/
  | defaults
  deriving Repr, DecidableEq

namespace ConfigSource

/-- The names of a project's file; the first one that is there counts. -/
def projectNames : List Path :=
  [⟨"migration-guard.toml"⟩, ⟨".migration-guard.toml"⟩]

/-- The user's file. -/
def userFile? (env : Environment) : Option Path :=
  (env.configDir <|> env.home.map (· / (⟨".migration-guard"⟩ : Path))).map (· / (⟨"config.toml"⟩ : Path))

/-- Whether there is a file at a path, which is seen from the working directory. -/
def isThere (env : Environment) (path : Path) : Bool :=
  env.files.isFile (env.here / path)

/-- The source of a project's configuration. A file that is named need not be there. -/
def find (env : Environment) (project : Path) (named? : Option Path) : ConfigSource :=
  match named? with
  | some path => named path
  | none =>
    match (projectNames.map (project / ·)).find? (isThere env) with
    | some path => .project path
    | none =>
      match (userFile? env).filter (isThere env) with
      | some path => user path
      | none => defaults

/-- The paths that may turn out to be the source of a project's configuration. -/
def candidates (env : Environment) (project : Path) (named? : Option Path) : List Path :=
  match named? with
  | some path => [path]
  | none => projectNames.map (project / ·) ++ (userFile? env).toList

/-- The file of a source. -/
def path? : ConfigSource → Option Path
  | named path | project path | user path => some path
  | defaults => none

/-- What is logged when a source is used. -/
def log : ConfigSource → List LogEntry
  | user path => [.info s!"Using global config: {path.text}"]
  | _ => []

/-- The configuration of a source. -/
def load (env : Environment) (source : ConfigSource) : Except Failure Config :=
  match source.path? with
  | none => .ok {}
  | some path => match env.files.readText (env.here / path) with
    | .error e => .error (.config path (.unreadable path e))
    | .ok text => (Config.parse text).mapError (.config path)

end ConfigSource

/-- The preset of a configuration. -/
def presetOf (c : Config) : Except Failure Rules.Preset :=
  match c.preset with
  | none => .ok .default
  | some name => match Rules.Preset.ofName? name with
    | some p => .ok p
    | none => .error (.unknownPreset name)

/-- The rules of a configuration. -/
def activeRules (c : Config) : Except Failure Registry := do
  (Registry.ofRules (c.resolve (← presetOf c).rules)).mapError .duplicateRule

end ComponentAudit.CommandLine
