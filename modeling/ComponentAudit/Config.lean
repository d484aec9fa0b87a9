import ComponentAudit.Data.Toml.Document
import ComponentAudit.FileTree
import ComponentAudit.Registry

/-!
# Configuration

What a project says about its scans: the preset to start from, where to look, which rules to switch off or to require, and
rules of its own.
-/

namespace ComponentAudit

open Data

/-- The directory names that are passed over by default: build output, dependencies, version control and backups. -/
def defaultExcludedDirs : List String :=
  ["vendor", "node_modules", ".git", "dist", "build", "migration_backups"]

/-- Where a scan looks. -/
structure ScanSettings where
  root : Path := ⟨"."⟩
  /-- The names of directories that are passed over. -/
  excludedDirs : List String := defaultExcludedDirs
  /-- Glob patterns of paths that are passed over. -/
  excluded : List String := []
  /-- Whether what Git ignores is passed over. -/
  respectGitignore : Bool := false
  /-- The number of workers. -/
  parallelism : Option Nat := none
  deriving Repr, DecidableEq

/-- What a project says about a rule. -/
structure RuleOverride where
  enabled : Option Bool := none
  required : Option Bool := none
  deriving Repr, DecidableEq

/-- The configuration of a project. -/
structure Config where
  preset : Option String := none
  scan : ScanSettings := {}
  /-- What is said about rules, by identifier. -/
  overrides : List (String × RuleOverride) := []
  /-- The rules that come after those of the preset. -/
  customRules : List Rule := []
  deriving Repr, DecidableEq

/-- Why there is no configuration. -/
inductive ConfigError where
  /-- The file cannot be read. -/
  | unreadable (path : Path) (error : FileError)
  /-- The text is no TOML document. -/
  | malformed (position : Text.Position)
  /-- The document says something else than a configuration does. -/
  | schema (position : Option Text.Position) (error : ReadError)

/-! ## Reading -/

/-- The value of an option that may be left out, or null. -/
def optionValue : Option Value → Value
  | some v => v
  | none => .null

namespace ScanSettings

/-- The checks of the fields. -/
def checks : List (String × (Value → Except ReadError Unit)) :=
  [("root", Value.check Value.asPath), ("exclude_dirs", Value.check (Value.asList Value.asText)),
    ("exclude", Value.check (Value.asList Value.asText)), ("respect_gitignore", Value.check Value.asBool),
    ("parallelism", Value.check (Value.asOption Value.asCount))]

/-- The settings that a value gives. -/
def read (v : Value) : Except ReadError ScanSettings := do
  let fields ← v.asLooseFields "struct ScanConfig" checks
  let standard : ScanSettings := {}
  return {
    root := ← Value.orElse fields "root" Value.asPath standard.root
    excludedDirs := ← Value.orElse fields "exclude_dirs" (Value.asList Value.asText) standard.excludedDirs
    excluded := ← Value.orElse fields "exclude" (Value.asList Value.asText) standard.excluded
    respectGitignore := ← Value.orElse fields "respect_gitignore" Value.asBool standard.respectGitignore
    parallelism := ← Value.orElse fields "parallelism" (Value.asOption Value.asCount) standard.parallelism }

/-- The record of the settings. -/
def toValue (s : ScanSettings) : Value :=
  .record [("root", .text s.root.text), ("exclude_dirs", .list (s.excludedDirs.map .text)),
    ("exclude", .list (s.excluded.map .text)), ("respect_gitignore", .bool s.respectGitignore),
    ("parallelism", optionValue (s.parallelism.map fun n => .int n))]

end ScanSettings

namespace RuleOverride

/-- The checks of the fields. -/
def checks : List (String × (Value → Except ReadError Unit)) :=
  [("enabled", Value.check (Value.asOption Value.asBool)), ("required", Value.check (Value.asOption Value.asBool))]

/-- The override that a value gives. -/
def read (v : Value) : Except ReadError RuleOverride := do
  let fields ← v.asLooseFields "struct RuleConfig" checks
  return {
    enabled := ← Value.orElse fields "enabled" (Value.asOption Value.asBool) none
    required := ← Value.orElse fields "required" (Value.asOption Value.asBool) none }

/-- The record of an override. -/
def toValue (o : RuleOverride) : Value :=
  .record [("enabled", optionValue (o.enabled.map .bool)), ("required", optionValue (o.required.map .bool))]

end RuleOverride

namespace Config

/-- The checks of the fields. -/
def checks : List (String × (Value → Except ReadError Unit)) :=
  [("preset", Value.check (Value.asOption Value.asText)), ("scan", Value.check ScanSettings.read),
    ("rules", Value.check (Value.asMap RuleOverride.read)), ("custom_rules", Value.check (Value.asList (Rule.read .toml)))]

/-- The configuration that a value gives. -/
def read (v : Value) : Except ReadError Config := do
  let fields ← v.asLooseFields "struct Config" checks
  return {
    preset := ← Value.orElse fields "preset" (Value.asOption Value.asText) none
    scan := ← Value.orElse fields "scan" ScanSettings.read {}
    overrides := ← Value.orElse fields "rules" (Value.asMap RuleOverride.read) []
    customRules := ← Value.orElse fields "custom_rules" (Value.asList (Rule.read .toml)) [] }

/-- The configuration of a text. -/
def parse (text : List Char) : Except ConfigError Config :=
  match Toml.Document.parse text with
  | .error p => .error (.malformed p)
  | .ok d => (read d.toValue).mapError fun e => .schema (d.place? e.path) e

/-- The configuration in a file. -/
def load (files : FileTree) (path : Path) : Except ConfigError Config := do
  parse (← (files.readText path).mapError (.unreadable path))

/-- The record of a configuration. -/
def toValue (c : Config) : Value :=
  .record [("preset", optionValue (c.preset.map .text)), ("scan", c.scan.toValue),
    ("rules", .record (c.overrides.map fun (id, o) => (id, o.toValue))),
    ("custom_rules", .list (c.customRules.map Rule.toValue))]

/-! ## Rules -/

/-- What is said about a rule. -/
def override? (c : Config) (id : String) : Option RuleOverride :=
  c.overrides.lookup id

/-- Whether a rule is used. -/
def isRuleEnabled (c : Config) (id : String) : Bool :=
  match c.override? id with
  | some o => o.enabled.getD true
  | none => true

/-- A rule with what is said about it. -/
def apply (c : Config) (r : Rule) : Rule :=
  match (c.override? r.id).bind (·.required) with
  | some required => { r with required := required }
  | none => r

/-- The rules of a scan: some rules and those of the project, without those that are switched off, and required or not as
is said about them. -/
def resolve (c : Config) (base : List Rule) : List Rule :=
  ((base ++ c.customRules).filter fun r => c.isRuleEnabled r.id).map c.apply

end Config

end ComponentAudit
