import ComponentAudit.Registry
import ComponentAudit.Rules.Preset

/-!
# The list of rules

The rules of a project as a table, and the presets that it can start from.
-/

namespace ComponentAudit.CommandLine

/-- A text with blanks after it, up to a width. -/
def padded (width : Nat) (s : String) : String :=
  s ++ String.ofList (List.replicate (width - s.length) ' ')

/-- A line of the table. -/
def tableLine (id kind required files description : String) : String :=
  s!"{padded 26 id} {padded 12 kind} {padded 9 required} {padded 10 files} {description}"

/-- The line of a rule. -/
def ruleLine (r : Rule) : String :=
  tableLine r.id r.kind.label (if r.required then "yes" else "no") (",".intercalate (r.fileKinds.map (·.name)))
    r.description

/-- What a preset is for. -/
def presetNote : Rules.Preset → String
  | .recommended => "the full built-in table (default)"
  | .strict => "every rule required, warnings become errors"
  | .minimal => "syntax and import rules only"

/-- The lines of the list. -/
def listing (r : Registry) : List String :=
  ["Active rules:", "", tableLine "ID" "Kind" "Required" "Files" "Description",
    String.ofList (List.replicate 100 '-')] ++
  r.rules.map ruleLine ++
  ["", "Presets:"] ++
  (Rules.Preset.all.map fun p => s!"  {padded 12 p.name} - {presetNote p}") ++
  ["", "Use --rules to filter specific rules, e.g.:",
    "  migration-guard check --rules no-legacy-import-path,namespace-import-present"]

end ComponentAudit.CommandLine
