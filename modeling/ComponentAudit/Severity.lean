/-!
# Severities

How grave an issue is: information, a warning for an optional rule, an error for a required one.
-/

namespace ComponentAudit

/-- How grave an issue is, ascending. -/
inductive Severity where
  | info
  | warning
  | error
  deriving Repr, DecidableEq

namespace Severity

/-- The severities, ascending. -/
def all : List Severity := [.info, .warning, .error]

/-- The severity of a violation of a rule that is required or not. -/
def ofRequired (required : Bool) : Severity :=
  if required then .error else .warning

/-- The name by which a severity is written. -/
def name : Severity → String
  | .info => "info"
  | .warning => "warning"
  | .error => "error"

/-- The terminal colour of a severity: blue, yellow or red. -/
def colour : Severity → Nat
  | .info => 34
  | .warning => 33
  | .error => 31

/-- The severity of a name. -/
def ofName? (s : String) : Option Severity :=
  all.find? (·.name = s)

/-- A severity's name is its own. -/
@[simp] theorem ofName?_name (s : Severity) : ofName? s.name = some s := by
  cases s <;> rfl

end Severity

end ComponentAudit
