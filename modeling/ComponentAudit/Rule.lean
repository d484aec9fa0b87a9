import ComponentAudit.Data.Read
import ComponentAudit.FileKind
import ComponentAudit.Severity

/-!
# Rules

A rule says what is checked in the files of some kinds, and what is reported where the check fails. The text that a rule
matches is part of its kind, so only rules that match text have one.
-/

namespace ComponentAudit

open Data

/-- What a rule inspects. -/
inductive RuleKind where
  /-- The file has to pass its syntax check. -/
  | syntaxCheck
  /-- No line may match. -/
  | pattern (regex : String)
  /-- A file that matches has to hold the declaration. -/
  | importRequirement (regex declaration : String)
  /-- The file has to be ready to compile, which is decided by the syntax check. -/
  | compilation
  deriving Repr, DecidableEq

namespace RuleKind

/-- The regular expression of a kind that matches text. -/
def regex? : RuleKind → Option String
  | .pattern regex => some regex
  | .importRequirement regex _ => some regex
  | .syntaxCheck | .compilation => none

/-- The name by which a kind is written. -/
def name : RuleKind → String
  | .syntaxCheck => "syntax"
  | .pattern _ => "pattern"
  | .importRequirement _ _ => "import_requirement"
  | .compilation => "compilation"

/-- The names of the kinds. -/
def names : List String := ["syntax", "pattern", "import_requirement", "compilation"]

/-- The short name of a kind in listings. -/
def label : RuleKind → String
  | .syntaxCheck => "syntax"
  | .pattern _ => "pattern"
  | .importRequirement _ _ => "import"
  | .compilation => "compilation"

/-- The fields that hold a kind within the record of its rule. -/
def fields (k : RuleKind) : List (String × Value) :=
  ("kind", .text k.name) ::
    match k with
    | .pattern regex => [("pattern", .text regex)]
    | .importRequirement regex declaration => [("pattern", .text regex), ("declaration", .text declaration)]
    | .syntaxCheck | .compilation => []

/-- The name of the kind that a value gives; in JSON its place among the names will do. -/
def readName (format : Format) : Value → Except ReadError String
  | .text s => Value.asName names s
  | .int n =>
    if format = .json ∧ 0 ≤ n then
      match names[n.toNat]? with
      | some name => .ok name
      | none => .error (.invalidValue (.int n) "variant index 0 <= i < 4")
    else .error (.invalidType (.int n) "variant identifier")
  | v => .error (.invalidType v "variant identifier")

/-- The kind that the fields of a rule's record give. -/
def read (format : Format) (fields : List (String × Value)) : Except ReadError RuleKind := do
  let name ← Value.need fields "kind" (readName format)
  if name = "pattern" then
    return .pattern (← Value.need fields "pattern" Value.asText)
  else if name = "import_requirement" then
    let fields ← Value.asFields "struct variant RuleKind::ImportRequirement"
      [("pattern", Value.check Value.asText), ("declaration", Value.check Value.asText)] (.record fields)
    return .importRequirement (← Value.need fields "pattern" Value.asText)
      (← Value.need fields "declaration" Value.asText)
  else if name = "syntax" then return .syntaxCheck
  else return .compilation

end RuleKind

/-- A check and what is reported where it fails. -/
structure Rule where
  /-- The identifier, unique in a registry. -/
  id : String
  /-- The name for display. -/
  name : String
  /-- What the rule checks; may be empty. -/
  description : String := ""
  kind : RuleKind
  /-- Whether a violation is an error, and whether silence counts as a pass. -/
  required : Bool := false
  /-- The kinds of file that the rule inspects. -/
  fileKinds : List FileKind
  /-- The message of every issue. -/
  message : String
  /-- The fix that every issue suggests. -/
  suggestedFix : Option String := none
  deriving Repr, DecidableEq

namespace Rule

/-- Whether the rule inspects files of a kind. -/
def appliesTo (r : Rule) (k : FileKind) : Bool :=
  r.fileKinds.contains k

/-- The severity of a violation. -/
def severity (r : Rule) : Severity :=
  .ofRequired r.required

/-- The record of a rule. -/
def toValue (r : Rule) : Value :=
  .record <|
    [("id", .text r.id), ("name", .text r.name), ("description", .text r.description)] ++ r.kind.fields ++
    [("required", .bool r.required), ("file_kinds", .list (r.fileKinds.map fun k => .text k.name)),
      ("message", .text r.message)] ++
    optionalField "suggested_fix" (r.suggestedFix.map .text)

/-- The file kind that a value gives. -/
def readFileKind (format : Format) (v : Value) : Except ReadError FileKind := do
  let name ← v.asVariant format (FileKind.all.map (·.name))
  match FileKind.ofName? name with
  | some k => return k
  | none => throw (.unknownVariant name (FileKind.all.map (·.name)))

/-- The checks of a rule's fields, the kind's own apart. -/
def checks (format : Format) : List (String × (Value → Except ReadError Unit)) :=
  [("id", Value.check Value.asText), ("name", Value.check Value.asText), ("description", Value.check Value.asText),
    ("required", Value.check Value.asBool), ("file_kinds", Value.check (Value.asList (readFileKind format))),
    ("message", Value.check Value.asText), ("suggested_fix", Value.check (Value.asOption Value.asText))]

/-- The rule that a value gives. What is wrong with its kind is wrong with the rule as a whole. -/
def read (format : Format) (v : Value) : Except ReadError Rule := do
  let fields ← v.asFields "struct Rule" (checks format)
  let id ← Value.need fields "id" Value.asText
  let name ← Value.need fields "name" Value.asText
  let description ← Value.orElse fields "description" Value.asText ""
  let required ← Value.orElse fields "required" Value.asBool false
  let fileKinds ← Value.need fields "file_kinds" (Value.asList (readFileKind format))
  let message ← Value.need fields "message" Value.asText
  let suggestedFix ← Value.orElse fields "suggested_fix" (Value.asOption Value.asText) none
  let kind ← (RuleKind.read format fields).mapError ReadError.cause
  return { id, name, description, kind, required, fileKinds, message, suggestedFix }

end Rule

end ComponentAudit
