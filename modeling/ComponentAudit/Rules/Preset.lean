import ComponentAudit.Rules.Builtin

/-!
# Presets

Choices from the built-in rules for common needs.
-/

namespace ComponentAudit.Rules

/-- A choice from the built-in rules. -/
inductive Preset where
  /-- All rules. -/
  | recommended
  /-- All rules, and all of them required. -/
  | strict
  /-- The rules on syntax and imports, for the start of a migration. -/
  | minimal
  deriving Repr, DecidableEq

namespace Preset

/-- The presets, in the order of listings. -/
def all : List Preset := [.recommended, .strict, .minimal]

/-- The preset that holds where none is named. -/
def default : Preset := .recommended

/-- The name of a preset. -/
def name : Preset → String
  | .recommended => "recommended"
  | .strict => "strict"
  | .minimal => "minimal"

/-- The preset of a name. -/
def ofName? (s : String) : Option Preset :=
  all.find? (·.name = s)

/-- The rules of a preset. -/
def rules : Preset → List Rule
  | .recommended => builtin
  | .strict => builtin.map fun r => { r with required := true }
  | .minimal => syntaxRules ++ importRules

end Preset

end ComponentAudit.Rules
