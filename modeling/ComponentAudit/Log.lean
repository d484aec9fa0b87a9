/-!
# Log lines

What a run tells while it is under way, apart from its results.
-/

namespace ComponentAudit

/-- How much a log line matters. -/
inductive LogLevel where
  | info
  | warning
  deriving Repr, DecidableEq

/-- The name of a level. -/
def LogLevel.name : LogLevel → String
  | info => "INFO"
  | warning => "WARN"

/-- A line of the log. -/
structure LogEntry where
  level : LogLevel
  message : String
  deriving Repr, DecidableEq

namespace LogEntry

/-- A line for information. -/
def info (message : String) : LogEntry := ⟨.info, message⟩

/-- A line that warns. -/
def warning (message : String) : LogEntry := ⟨.warning, message⟩

end LogEntry

end ComponentAudit
