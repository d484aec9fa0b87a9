import ComponentAudit.Path

/-!
# A configuration to start from

The configuration that is written into a project that has none, and what is said about it.
-/

namespace ComponentAudit.CommandLine.Starter

/-- The file of the configuration. -/
def path : Path := ⟨"migration-guard.toml"⟩

/-- The lines of the configuration. -/
def lines : List String := [
  "# migration-guard configuration",
  "",
  "# Rule preset: \"recommended\" (default), \"strict\" or \"minimal\"",
  "preset = \"recommended\"",
  "",
  "[scan]",
  "# Project root (default: current directory)",
  "# root = \"./web\"",
  "",
  "# Directory names pruned from the walk",
  "exclude_dirs = [\"vendor\", \"node_modules\", \".git\", \"dist\", \"build\", \"migration_backups\"]",
  "",
  "# Glob patterns (relative to the root) excluded from the walk",
  "exclude = [",
  "    \"**/*_templ.go\",",
  "]",
  "",
  "# Respect .gitignore files",
  "respect_gitignore = false",
  "",
  "# Worker threads; 1 scans sequentially",
  "# parallelism = 4",
  "",
  "# Rule overrides by ID",
  "# [rules.no-hardcoded-color-class]",
  "# enabled = false",
  "#",
  "# [rules.htmx-via-props]",
  "# required = true",
  "",
  "# Project-specific rules",
  "# [[custom_rules]]",
  "# id = \"no-inline-style\"",
  "# name = \"No Inline Styles\"",
  "# description = \"Styles belong in the component library\"",
  "# kind = \"pattern\"",
  "# pattern = 'style=\"'",
  "# file_kinds = [\"templ\"]",
  "# message = \"Inline style attribute\"",
  "# suggested_fix = \"Use a utility class or a component prop\""]

/-- The text of the configuration. -/
def text : String :=
  String.join (lines.map (· ++ "\n"))

/-- What is said once the configuration is there. -/
def notice : List String :=
  [s!"Created {path.text}", "", "Next steps:", s!"  1. Edit {path.text} to configure rules",
    "  2. Run: migration-guard check"]

end ComponentAudit.CommandLine.Starter
