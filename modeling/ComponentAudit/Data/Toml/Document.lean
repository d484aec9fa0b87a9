import ComponentAudit.Data.Toml.Scalar
import ComponentAudit.Text.Position

/-!
# TOML documents

The tables of a document, as its lines build them. A table has one definition: a header opens one that is new, or that was
only needed for the sake of those below it; keys with dots reach into tables that such keys alone have made; and an array of
tables takes one table more with each of its headers.
-/

namespace ComponentAudit.Data.Toml

open Reader Text

/-! ## Tables under construction -/

/-- Where something starts in a document: the number of characters from there on. -/
abbrev Mark := Nat

/-- A key with its place. -/
structure Key where
  name : String
  mark : Mark

/-- How a table came to be. -/
inductive TableKind where
  /-- By a header of its own. -/
  | opened
  /-- By a header of a table below it. -/
  | implied
  /-- By a key with dots. -/
  | dotted
  deriving DecidableEq

/-- What a key of a table stands for, with the place where it starts. -/
inductive Entry where
  | scalar (mark : Mark) (v : Value)
  | array (mark : Mark) (items : List Entry)
  /-- A table on one line, to which nothing can be added. -/
  | inline (mark : Mark) (fields : List (String × Entry))
  | table (mark : Mark) (kind : TableKind) (fields : List (String × Entry))
  /-- An array of tables. -/
  | rows (rows : List (Mark × List (String × Entry)))

/-- The fields of a table. -/
abbrev Fields := List (String × Entry)

mutual

/-- The value of an entry. -/
def Entry.toValue : Entry → Value
  | .scalar _ v => v
  | .array _ items => .list (itemValues items)
  | .inline _ fields => .record (fieldValues fields)
  | .table _ _ fields => .record (fieldValues fields)
  | .rows rows => .list (rowValues rows)

/-- The values of the items of an array. -/
def itemValues : List Entry → List Value
  | [] => []
  | entry :: rest => entry.toValue :: itemValues rest

/-- The values of fields. -/
def fieldValues : Fields → List (String × Value)
  | [] => []
  | (key, entry) :: rest => (key, entry.toValue) :: fieldValues rest

/-- The values of the tables of an array. -/
def rowValues : List (Mark × Fields) → List Value
  | [] => []
  | (_, row) :: rest => .record (fieldValues row) :: rowValues rest

end

/-- Where an entry starts. -/
def Entry.mark? : Entry → Option Mark
  | .scalar mark _ | .array mark _ | .inline mark _ | .table mark _ _ => some mark
  | .rows all => all.head?.map (·.1)

/-- Where what a path leads to starts, or else what is nearest to it on the way. -/
def Entry.place : List Segment → Entry → Option Mark
  | .field name :: path, .inline mark fields | .field name :: path, .table mark _ fields =>
    ((fields.lookup name).bind (place path)) <|> some mark
  | .item n :: path, .array mark items => (items[n]?.bind (place path)) <|> some mark
  | .item n :: path, .rows all => all[n]?.bind fun (mark, fields) => place path (.table mark .opened fields)
  | _, e => e.mark?
termination_by path => path.length

/-- Puts an entry in the place of the one that a key stands for. -/
def replace (key : Key) (entry : Entry) (fields : Fields) : Fields :=
  fields.map fun (k, e) => if k = key.name then (k, entry) else (k, e)

/-- Changes the last of some tables. -/
def changeLast (f : Fields → Option Fields) : List (Mark × Fields) → Option (List (Mark × Fields))
  | [] => none
  | [(mark, row)] => (f row).map fun row => [(mark, row)]
  | row :: rest => (changeLast f rest).map (row :: ·)

/-- Changes the table that a path leads to. Tables on the way are made if there are none. Keys with dots do not reach into
a table that has a definition. The change is told whether the table was made by such keys. -/
def descend (dotted : Bool) (change : Bool → Fields → Option Fields) (isDotted : Bool) :
    List Key → Fields → Option Fields
  | [], fields => change isDotted fields
  | key :: path, fields =>
    match fields.lookup key.name with
    | none => (descend dotted change dotted path []).map fun made =>
        fields ++ [(key.name, .table key.mark (if dotted then .dotted else .implied) made)]
    | some (.scalar _ _) | some (.array _ _) | some (.inline _ _) => none
    | some (.table mark kind inner) =>
      if dotted && kind == .opened then none
      else (descend dotted change (kind == .dotted) path inner).map fun inner => replace key (.table mark kind inner) fields
    | some (.rows rows) =>
      (changeLast (descend dotted change false path) rows).map fun rows => replace key (.rows rows) fields

/-- Adds a value under a path of keys. -/
def insert (path : List Key) (v : Entry) (fields : Fields) : Option Fields :=
  match path.getLast? with
  | none => none
  | some key =>
    let parents := path.dropLast
    descend true (fun isDotted table =>
      if isDotted = parents.isEmpty ∨ (table.lookup key.name).isSome then none
      else some (table ++ [(key.name, v)])) false parents fields

/-- Opens a table by its header. -/
def openTable (mark : Mark) (path : List Key) (fields : Fields) : Option Fields :=
  match path.getLast? with
  | none => none
  | some key =>
    descend false (fun _ table =>
      match table.lookup key.name with
      | none => some (table ++ [(key.name, .table mark .opened [])])
      | some (.table _ .implied inner) =>
        some (table.filter (·.1 ≠ key.name) ++ [(key.name, .table mark .opened inner)])
      | some _ => none) false path.dropLast fields

/-- Opens one table more of an array by its header. -/
def openRow (mark : Mark) (path : List Key) (fields : Fields) : Option Fields :=
  match path.getLast? with
  | none => none
  | some key =>
    descend false (fun _ table =>
      match table.lookup key.name with
      | none => some (table ++ [(key.name, .rows [(mark, [])])])
      | some (.rows rows) => some (replace key (.rows (rows ++ [(mark, [])])) table)
      | some _ => none) false path.dropLast fields

/-! ## Keys and values -/

/-- The place that reading has come to. -/
def here : Reader Mark := do
  return (← get).length

/-- A character of a key without quotes. -/
def isKeyChar (c : Char) : Bool :=
  c.toNat < 128 && (c.isAlphanum || c == '_' || c == '-')

/-- A key without dots. -/
def simpleKey : Reader Key := do
  let mark ← here
  let name : String ← match ← peek with
    | some '"' => basicString
    | some '\'' => literalString
    | _ => pure (String.ofList ((← one isKeyChar) :: (← takeWhile isKeyChar)))
  return { name, mark }

/-- How deep arrays and tables may stand in each other, and how many dots a key may have. -/
def depthLimit : Nat := 79

/-- A path of keys with dots between. -/
def key : Reader (List Key) := do
  let part : Reader Key := spacing *> simpleKey <* spacing
  let first ← part
  let rest ← repeated (optional (expect "." *> part))
  if depthLimit < rest.length + 1 then failure else return first :: rest

/-- Items with commas between, up to a closing bracket; there may be a comma before it, or not. -/
def separated {α : Type} (item : Reader α) (close : String) (trailing : Bool) : Reader (List α) := do
  if ← skip? close then return [] else
    let first ← item
    let step : Reader (Option α) := do
      if ← skip? close then return none
      else
        expect ","
        if trailing then
          layout
          if ← skip? close then return none
        some <$> item
    return first :: (← repeated step)

/-- An array of values, on any number of lines. -/
def array (value : Reader Entry) : Reader Entry := do
  let mark ← here
  expect "["
  layout
  return .array mark (← separated (layout *> value <* layout) "]" true)

/-- A table on one line. -/
def inlineTable (value : Reader Entry) : Reader Entry := do
  let mark ← here
  expect "\x7b"
  spacing
  let pair : Reader (List Key × Entry) := do
    let path ← key
    expect "="
    spacing
    return (path, ← value <* spacing)
  let pairs ← separated pair "\x7d" false
  match pairs.foldlM (fun fields (path, v) => insert path v fields) [] with
  | some fields => return .inline mark fields
  | none => throw mark

/-- A value within so many arrays and tables at most. -/
def value : Nat → Reader Entry
  | 0 => return .scalar (← here) (← scalar)
  | depth + 1 => do
    match ← peek with
    | some '[' => array (value depth)
    | some '\x7b' => inlineTable (value depth)
    | _ => return .scalar (← here) (← scalar)

/-! ## Lines -/

/-- A document as far as it has been read: its tables, and the path to the one that keys go to. -/
structure Draft where
  fields : Fields
  path : List Key

/-- Adds a value to the table that keys go to. -/
def Draft.insert (d : Draft) (path : List Key) (v : Entry) : Option Draft :=
  (descend false (fun _ table => Toml.insert path v table) false d.path d.fields).map fun fields =>
    { d with fields := fields }

/-- What may stand at the end of a line. -/
def lineEnd : Reader Unit := do
  spacing
  discard (optional remark)
  match ← peek with
  | none => return ()
  | some _ => newline

/-- A header or a value with its key, or nothing but a remark. What cannot be added to the draft is a fault of the whole
line. -/
def line (d : Draft) : Reader Draft := do
  let mark ← here
  match ← peek with
  | none => return d
  | some '#' => lineEnd; return d
  | some '\n' => newline; return d
  | some '\r' => newline; return d
  | some '[' =>
    let isRow ← skip? "[["
    if !isRow then expect "["
    let path ← key
    expect (if isRow then "]]" else "]")
    lineEnd
    match (if isRow then openRow else openTable) mark path d.fields with
    | some fields => return ⟨fields, path⟩
    | none => throw mark
  | some _ =>
    let path ← key
    expect "="
    spacing
    let v ← value depthLimit
    lineEnd
    match d.insert path v with
    | some d => return d
    | none => throw mark

/-- The lines of a document. -/
def lines : Nat → Draft → Reader Draft
  | 0, _ => failure
  | n + 1, d => do
    spacing
    match ← peek with
    | none => return d
    | some _ => lines n (← line d)

/-- A document: its fields, with their places. -/
structure Document where
  text : List Char
  fields : Fields

namespace Document

/-- The text without a mark of byte order before it. -/
def withoutMark (text : List Char) : List Char :=
  if text.head? = some '\uFEFF' then text.tail else text

/-- The line and the column of a place. The place after the last character is one column after it, even if that character
is a line end. -/
def positionOf (text : List Char) (mark : Mark) : Position :=
  let before := text.take (text.length - mark)
  if mark = 0 ∧ text ≠ [] then
    let last := Position.start.advance before.dropLast
    ⟨last.line, last.column + 1⟩
  else Position.start.advance before

/-- The document of a text, or the place where it goes wrong. -/
def parse (text : List Char) : Except Position Document :=
  match (lines (text.length + 1) ⟨[], []⟩).run (withoutMark text) with
  | .ok (d, _) => .ok ⟨text, d.fields⟩
  | .error mark => .error (positionOf text mark)

/-- The value of a document. -/
def toValue (d : Document) : Value :=
  .record (fieldValues d.fields)

/-- Where what a path leads to starts. -/
def place? (d : Document) : List Segment → Option Position
  | .field name :: path =>
    (d.fields.lookup name).bind fun entry => (entry.place path).map (positionOf d.text)
  | _ => none

end Document

end ComponentAudit.Data.Toml
