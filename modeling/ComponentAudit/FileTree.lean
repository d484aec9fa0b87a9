import ComponentAudit.Path

/-!
# File trees

A directory with all that is below it: files, links and further directories, some of which may be closed to the reader. A
path names a place of the tree, the links on its way being followed. Writing gives another tree.
-/

namespace ComponentAudit

/-- A file, a link to a path, or a directory. -/
inductive FileTree where
  | file (bytes : List UInt8)
  /-- A link; a relative target is seen from the directory that the link is in. -/
  | link (target : Path)
  /-- A directory, with its entries in any order. -/
  | directory (entries : List (EntryName × FileTree))
  /-- A file or a directory that may not be opened. -/
  | closed (isDirectory : Bool)

/-- Why a file could not be read or written. -/
inductive FileError where
  | notFound
  | notDirectory
  | isDirectory
  /-- What is to be opened is closed. -/
  | denied
  /-- More links than are followed. -/
  | linkLoop
  /-- The bytes are not UTF-8. -/
  | notText
  deriving Repr, DecidableEq

/-- The text of the error. -/
def FileError.message : FileError → String
  | notFound => "No such file or directory (os error 2)"
  | notDirectory => "Not a directory (os error 20)"
  | isDirectory => "Is a directory (os error 21)"
  | denied => "Permission denied (os error 13)"
  | linkLoop => "Too many levels of symbolic links (os error 40)"
  | notText => "stream did not contain valid UTF-8"

/-- One step of a path. -/
inductive Path.Step where
  /-- Stays in a directory. -/
  | here
  /-- Goes to the directory above. -/
  | up
  | into (name : EntryName)
  deriving Repr, DecidableEq

/-- The step that a part of a path asks for. An empty part stands for the directory that it is in. -/
def Path.Step.ofPart (part : EntryName) : Path.Step :=
  if part = [] ∨ part = [dot] then .here
  else if part = [dot, dot] then .up
  else .into part

/-- The steps of a path. -/
def Path.steps (p : Path) : List Path.Step :=
  p.parts.map Step.ofPart

/-- Where the steps of a path lead. -/
inductive Destination where
  /-- To an entry, by the names on the way to it from the top. -/
  | found (names : List EntryName)
  /-- To a name that a directory does not have, with the steps that would follow. -/
  | missing (names : List EntryName) (rest : List Path.Step)
  deriving Repr, DecidableEq

namespace FileTree

/-- The entries of a directory; nothing else has any. -/
def entries : FileTree → List (EntryName × FileTree)
  | directory entries => entries
  | _ => []

/-- The entry of a name. -/
def entry? (t : FileTree) (name : EntryName) : Option FileTree :=
  t.entries.lookup name

/-- What some names lead to, without following links. -/
def at? (t : FileTree) : List EntryName → Option FileTree
  | [] => some t
  | name :: rest => (t.entry? name).bind (·.at? rest)

/-- Where some steps lead from a directory. Links are followed, but no more than a number of them. -/
def follow (top : FileTree) (links : Nat) (names : List EntryName) : List Path.Step → Except FileError Destination
  | [] => .ok (.found names)
  | .here :: rest => follow top links names rest
  | .up :: rest => follow top links names.dropLast rest
  | .into name :: rest =>
    match top.at? (names ++ [name]) with
    | none => .ok (.missing (names ++ [name]) rest)
    | some (.directory _) => follow top links (names ++ [name]) rest
    | some (.file _) | some (.closed false) =>
      if rest = [] then .ok (.found (names ++ [name])) else .error .notDirectory
    | some (.closed true) => if rest = [] then .ok (.found (names ++ [name])) else .error .denied
    | some (.link target) =>
      match links with
      | 0 => .error .linkLoop
      | links + 1 => follow top links (if target.isAbsolute then [] else names) (target.steps ++ rest)
termination_by steps => (links, steps.length)

/-- How many links are followed on the way of one path. -/
def linkLimit : Nat := 40

/-- Where an absolute path leads. -/
def locate (top : FileTree) (p : Path) : Except FileError Destination :=
  if p.bytes = [] then .error .notFound else follow top linkLimit [] p.steps

/-- What a destination holds, with the names on the way to it. -/
def held (top : FileTree) : Destination → Except FileError (List EntryName × FileTree)
  | .found names => match top.at? names with
    | some t => .ok (names, t)
    | none => .error .notFound
  | .missing _ _ => .error .notFound

/-- What an absolute path leads to, with the names on the way to it. -/
def resolve (top : FileTree) (p : Path) : Except FileError (List EntryName × FileTree) := do
  top.held (← top.locate p)

/-- What an absolute path leads to. -/
def find (top : FileTree) (p : Path) : Except FileError FileTree :=
  (top.resolve p).map (·.2)

/-- What steps lead to from the directory at the end of some names. -/
def findIn (top : FileTree) (names : List EntryName) (steps : List Path.Step) : Except FileError FileTree := do
  return (← top.held (← follow top linkLimit names steps)).2

/-- The bytes of a file; a directory has none, and those of a closed file are not to be had. -/
def bytes : FileTree → Except FileError (List UInt8)
  | file bytes => .ok bytes
  | directory _ => .error .isDirectory
  | link _ => .error .linkLoop
  | closed _ => .error .denied

/-- The bytes of the file at an absolute path. -/
def read (top : FileTree) (p : Path) : Except FileError (List UInt8) := do
  (← top.find p).bytes

/-- The text of the file at an absolute path. -/
def readText (top : FileTree) (p : Path) : Except FileError (List Char) := do
  match Text.Utf8.decode? (← top.read p) with
  | some text => return text
  | none => throw .notText

/-- Whether there is anything at an absolute path. -/
def has (top : FileTree) (p : Path) : Bool :=
  (top.find p).isOk

/-- Whether there is a file at an absolute path. -/
def isFile (top : FileTree) (p : Path) : Bool :=
  match top.find p with
  | .ok (.file _) => true
  | _ => false

/-- The entries of a directory with another one under a name. -/
def putEntry (name : EntryName) (new : FileTree) : List (EntryName × FileTree) → List (EntryName × FileTree)
  | [] => [(name, new)]
  | (other, t) :: rest => if other = name then (name, new) :: rest else (other, t) :: putEntry name new rest

/-- The tree with something else at the end of some names; directories on the way are made where they are missing. -/
def put (t : FileTree) (new : FileTree) : List EntryName → FileTree
  | [] => new
  | name :: rest => directory (putEntry name (put ((t.entry? name).getD (directory [])) new rest) t.entries)

/-- The tree after a file is written at an absolute path. -/
def write (top : FileTree) (p : Path) (bytes : List UInt8) : Except FileError FileTree := do
  if p.steps.getLast? = some .here ∨ p.steps.getLast? = some .up then throw .isDirectory
  match ← top.locate p with
  | .found names => match top.at? names with
    | some (.directory _) | some (.closed true) => throw .isDirectory
    | some (.closed false) => throw .denied
    | _ => return top.put (file bytes) names
  | .missing names [] => return top.put (file bytes) names
  | .missing _ _ => throw .notFound

/-- The names among some steps. -/
def stepNames (steps : List Path.Step) : List EntryName :=
  steps.filterMap fun | .into name => some name | _ => none

/-- The tree with something added at an absolute path, and with the directories that it takes. A directory that is there
already stays as it is. -/
def add (top : FileTree) (p : Path) (new : FileTree) : FileTree :=
  match top.locate p with
  | .ok (.found names) => match top.at? names, new with
    | some (.directory _), .directory _ => top
    | _, _ => top.put new names
  | .ok (.missing names rest) => top.put new (names ++ stepNames rest)
  | .error _ => top

/-- The tree without any entry. -/
def empty : FileTree := directory []

end FileTree

end ComponentAudit
