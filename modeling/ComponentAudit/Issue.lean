import ComponentAudit.Data.Read
import ComponentAudit.Severity
import ComponentAudit.Text.Position

/-!
# Issues

An issue is one violation of a rule at one place of a file. It is written as a record, as one line, or as a few lines for
a terminal, and as a diagnostic over the text of its file.
-/

namespace ComponentAudit

open Data

/-- A place in a file: line and column counted from one in characters, and a span of bytes. -/
structure Location where
  /-- The file, seen from the root of the scan. -/
  file : Path
  line : Nat
  column : Nat
  offset : Nat := 0
  length : Nat := 0
  deriving Repr, DecidableEq

/-- A violation of a rule. -/
structure Issue where
  id : String
  ruleId : String
  location : Location
  /-- The offending text. -/
  matchedText : String := ""
  severity : Severity
  message : String
  suggestedFix : Option String := none
  deriving Repr, DecidableEq

namespace Issue

/-- The identifier of a rule's issue in a line of a file. -/
def identifier (ruleId : String) (location : Location) : String :=
  s!"{ruleId}:{location.file.text}:{location.line}"

/-- The issue of a rule at a place; its identifier follows from rule, file and line. -/
def ofRule (ruleId : String) (severity : Severity) (location : Location) (message : String)
    (matchedText : String := "") (suggestedFix : Option String := none) : Issue :=
  { id := identifier ruleId location, ruleId, location, matchedText, severity, message, suggestedFix }

/-- A severity as a terminal shows it, in its colour if wanted. -/
def severityText (colour : Bool) (s : Severity) : String :=
  if colour then s!"\x1b[{s.colour}m{s.name}\x1b[0m" else s.name

/-- The issue in two or three lines. -/
def format (i : Issue) (colour : Bool := false) : String :=
  s!"{i.ruleId} at {i.location.file.text}:{i.location.line}:{i.location.column}\n" ++
  s!"  {severityText colour i.severity}: {i.message}\n" ++
  match i.suggestedFix with
  | some fix => s!"  = fix: {fix}\n"
  | none => ""

/-- The issue in one line. -/
def line (i : Issue) : String :=
  s!"{i.location.file.text}:{i.location.line}:{i.location.column}: {i.severity.name} [{i.ruleId}] {i.message}"

/-- The record of an issue, with its place among its own fields. -/
def toValue (i : Issue) : Value :=
  .record <|
    [("id", .text i.id), ("rule_id", .text i.ruleId), ("file", .text i.location.file.text),
      ("line", .int i.location.line), ("column", .int i.location.column), ("offset", .int i.location.offset),
      ("length", .int i.location.length), ("matched_text", .text i.matchedText),
      ("severity", .text i.severity.name), ("message", .text i.message)] ++
    optionalField "suggested_fix" (i.suggestedFix.map .text)

/-- The severity that a value gives. -/
def readSeverity (v : Value) : Except ReadError Severity := do
  let name ← v.asVariant .json (Severity.all.map (·.name))
  match Severity.ofName? name with
  | some s => return s
  | none => throw (.unknownVariant name (Severity.all.map (·.name)))

/-- The checks of an issue's fields, those of its place apart. -/
def checks : List (String × (Value → Except ReadError Unit)) :=
  [("id", Value.check Value.asText), ("rule_id", Value.check Value.asText),
    ("matched_text", Value.check Value.asText), ("severity", Value.check readSeverity),
    ("message", Value.check Value.asText), ("suggested_fix", Value.check (Value.asOption Value.asText))]

/-- The checks of the fields of a place. -/
def placeChecks : List (String × (Value → Except ReadError Unit)) :=
  [("file", Value.check Value.asPath), ("line", Value.check Value.asCount), ("column", Value.check Value.asCount),
    ("offset", Value.check Value.asCount), ("length", Value.check Value.asCount)]

/-- The place that the fields of an issue's record give. -/
def readPlace (fields : List (String × Value)) : Except ReadError Location := do
  let fields ← (Value.record fields).asFields "struct Location" placeChecks
  let file ← Value.need fields "file" Value.asPath
  let line ← Value.need fields "line" Value.asCount
  let column ← Value.need fields "column" Value.asCount
  let offset ← Value.orElse fields "offset" Value.asCount 0
  let length ← Value.orElse fields "length" Value.asCount 0
  return { file, line, column, offset, length }

/-- The issue that a value gives. -/
def read (v : Value) : Except ReadError Issue := do
  let fields ← v.asFields "struct Issue" checks
  let id ← Value.need fields "id" Value.asText
  let ruleId ← Value.need fields "rule_id" Value.asText
  let matchedText ← Value.need fields "matched_text" Value.asText
  let severity ← Value.need fields "severity" readSeverity
  let message ← Value.need fields "message" Value.asText
  let suggestedFix ← Value.orElse fields "suggested_fix" (Value.asOption Value.asText) none
  let location ← readPlace fields
  return { id, ruleId, location, matchedText, severity, message, suggestedFix }

end Issue

/-- A span of bytes under a word, in a diagnostic. -/
structure Label where
  text : String
  offset : Nat
  length : Nat
  deriving Repr, DecidableEq

/-- An issue over the text of its file. -/
structure Diagnostic where
  /-- Rule and message. -/
  text : String
  help : Option String
  /-- The name of the file. -/
  file : String
  content : List Char
  label : Label
  deriving Repr, DecidableEq

/-- The diagnostic of an issue over a text; its span is cut to the text. -/
def Diagnostic.ofIssue (i : Issue) (content : List Char) : Diagnostic :=
  let size := Text.byteLength content
  let offset := min i.location.offset size
  { text := s!"[{i.ruleId}] {i.message}"
    help := i.suggestedFix
    file := i.location.file.text
    content
    label := { text := i.severity.name, offset, length := min i.location.length (size - offset) } }

end ComponentAudit
