import ComponentAudit.Text.Quoted

/-!
# Documents

The value of a JSON or TOML document, and what can be wrong with a value that is read as something else. The fields of a
record keep the order in which they are looked at.
-/

namespace ComponentAudit.Data

/-- The two document formats; they differ in how a value that stands for one of several names may be written. -/
inductive Format where
  | json
  | toml
  deriving Repr, DecidableEq

/-- The value of a document. -/
inductive Value where
  | null
  | bool (b : Bool)
  | int (n : Int)
  /-- A number with a fraction or an exponent, by the text that shows it. -/
  | real (shown : String)
  | text (s : String)
  /-- A date, a time or both, by the text that shows it. -/
  | moment (shown : String)
  | list (items : List Value)
  | record (fields : List (String × Value))
  deriving Repr, Inhabited

/-- A field that holds a value where there is one. -/
def optionalField (name : String) : Option Value → List (String × Value)
  | some v => [(name, v)]
  | none => []

namespace Value

/-- What a message calls the value. -/
def shape : Value → String
  | null => "null"
  | bool b => s!"boolean `{b}`"
  | int n => s!"integer `{n}`"
  | real shown => s!"floating point `{shown}`"
  | text s => "string " ++ Text.quoted s
  | moment _ => "map"
  | list _ => "sequence"
  | record _ => "map"

/-- The value of a field of a record. -/
def field? (fields : List (String × Value)) (name : String) : Option Value :=
  fields.lookup name

end Value

/-- A step from a value to one that it consists of. -/
inductive Segment where
  | field (name : String)
  /-- An item of a list, by the number of items before it. -/
  | item (n : Nat)
  deriving Repr, DecidableEq

/-- Why a value could not be read. -/
inductive ReadError where
  /-- Something is wrong with a value that it consists of. -/
  | within (segment : Segment) (error : ReadError)
  /-- A record lacks a field. -/
  | missingField (name : String)
  /-- A value is of the wrong kind. -/
  | invalidType (found : Value) (expected : String)
  /-- A value is of the right kind and out of range. -/
  | invalidValue (found : Value) (expected : String)
  /-- A list has the wrong number of items. -/
  | invalidLength (found : Nat) (expected : String)
  /-- A text is none of the names that may stand there. -/
  | unknownVariant (name : String) (expected : List String)
  /-- A value that stands for a name is neither text nor a record. -/
  | notVariant
  /-- A record that stands for a name has not one field. -/
  | notOneField (count : Nat)
  /-- A text is not the moment in time that should stand there. -/
  | invalidMoment (reason : String)
  deriving Repr, Inhabited

namespace ReadError

/-- The names that may stand in a place, as a message lists them. -/
def oneOf (names : List String) : String :=
  match names.map fun name => "`" ++ name ++ "`" with
  | [] => "there are no variants"
  | [one] => "expected " ++ one
  | [one, two] => "expected " ++ one ++ " or " ++ two
  | many => "expected one of " ++ ", ".intercalate many

/-- The text of an error. -/
def message : ReadError → String
  | within _ error => error.message
  | missingField name => s!"missing field `{name}`"
  | invalidType found expected => s!"invalid type: {found.shape}, expected {expected}"
  | invalidValue found expected => s!"invalid value: {found.shape}, expected {expected}"
  | invalidLength found expected => s!"invalid length {found}, expected {expected}"
  | unknownVariant name expected => s!"unknown variant `{name}`, {oneOf expected}"
  | notVariant => "wanted string or table"
  | notOneField count => s!"wanted exactly 1 element, found {count} elements"
  | invalidMoment reason => reason

/-- The way from a value to the one that an error is about. -/
def path : ReadError → List Segment
  | within segment error => segment :: error.path
  | _ => []

/-- The error without the way to it. -/
def cause : ReadError → ReadError
  | within _ error => error.cause
  | error => error

end ReadError

end ComponentAudit.Data
