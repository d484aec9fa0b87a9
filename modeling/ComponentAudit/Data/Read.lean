import ComponentAudit.Data.Value
import ComponentAudit.Path

/-!
# Reading values

What a document's value says as text, number, list, path or record. The fields of a record are looked at in the order in
which they stand, unknown ones are passed over, and only then are missing ones reported, in the order in which the record
is declared.
-/

namespace ComponentAudit.Data.Value

/-- The text of a value. -/
def asText : Value → Except ReadError String
  | text s => .ok s
  | v => .error (.invalidType v "a string")

/-- The truth of a value. -/
def asBool : Value → Except ReadError Bool
  | bool b => .ok b
  | v => .error (.invalidType v "a boolean")

/-- The count that a value gives. -/
def asCount : Value → Except ReadError Nat
  | int n => if 0 ≤ n then .ok n.toNat else .error (.invalidValue (int n) "usize")
  | v => .error (.invalidType v "usize")

/-- The path of a value. -/
def asPath : Value → Except ReadError Path
  | text s => .ok ⟨s⟩
  | v => .error (.invalidType v "path string")

/-- The items of a value, each read in the same way. -/
def asList {α : Type} (read : Value → Except ReadError α) : Value → Except ReadError (List α)
  | list items => items.zipIdx.mapM fun (v, n) => (read v).mapError (.within (.item n))
  | v => .error (.invalidType v "a sequence")

/-- Nothing for null, else the value as it is read. -/
def asOption {α : Type} (read : Value → Except ReadError α) : Value → Except ReadError (Option α)
  | null => .ok none
  | v => (read v).map some

/-- One of several names. -/
def asName (names : List String) (s : String) : Except ReadError String :=
  if s ∈ names then .ok s else .error (.unknownVariant s names)

/-- One of several names, written as text or as a record with one field of that name that holds nothing. -/
def asVariant (format : Format) (names : List String) (v : Value) : Except ReadError String :=
  match format, v with
  | _, text s => asName names s
  | .json, record [(name, inner)] => do
    let name ← asName names name
    match inner with
    | null => .ok name
    | _ => .error (.invalidType inner "unit")
  | .json, record _ => .error (.invalidValue v "map with a single key")
  | .json, _ => .error (.invalidType v "string or map")
  | .toml, record [(name, inner)] => do
    let name ← asName names name
    match inner with
    | record [] | list [] => .ok name
    | _ => .error .notVariant
  | .toml, record fields => .error (.notOneField fields.length)
  | .toml, _ => .error .notVariant

/-- The fields of a record, after each known one has been checked in the order in which they stand. -/
def asFields (what : String) (checks : List (String × (Value → Except ReadError Unit))) :
    Value → Except ReadError (List (String × Value))
  | record fields => do
    for (name, v) in fields do
      match checks.lookup name with
      | some check => (check v).mapError (.within (.field name))
      | none => pure ()
    return fields
  | v => .error (.invalidType v what)

/-- The fields of a record as they stand; a date counts as a record with one field that no record knows. -/
def asMap {α : Type} (read : Value → Except ReadError α) : Value → Except ReadError (List (String × α))
  | record fields => fields.mapM fun (name, v) => return (name, ← (read v).mapError (.within (.field name)))
  | moment shown => return [(shown, ← read (text shown))]
  | v => .error (.invalidType v "a map")

/-- The fields of a record that may also be written as a list, in the order of the names, and has a value of its own for
each field that is left out. -/
def asLooseFields (what : String) (checks : List (String × (Value → Except ReadError Unit))) :
    Value → Except ReadError (List (String × Value))
  | list items => do
    for (((_, check), v), n) in (checks.zip items).zipIdx do
      (check v).mapError (.within (.item n))
    return (checks.map (·.1)).zip items
  | moment _ => .ok []
  | v => v.asFields what checks

/-- A check that a value can be read in some way. -/
def check {α : Type} (read : Value → Except ReadError α) (v : Value) : Except ReadError Unit :=
  (read v).map fun _ => ()

/-- A field that has to be there. -/
def need {α : Type} (fields : List (String × Value)) (name : String) (read : Value → Except ReadError α) :
    Except ReadError α :=
  match field? fields name with
  | some v => read v
  | none => .error (.missingField name)

/-- A field that has a value of its own where it is left out. -/
def orElse {α : Type} (fields : List (String × Value)) (name : String) (read : Value → Except ReadError α)
    (default : α) : Except ReadError α :=
  match field? fields name with
  | some v => read v
  | none => .ok default

end ComponentAudit.Data.Value
