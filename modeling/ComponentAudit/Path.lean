import ComponentAudit.Text.Position
import ComponentAudit.Text.Utf8

/-!
# Paths

A path is bytes, kept as they were written; they need not be UTF-8. Its components are what it says: repeated slashes and dots
within it count for nothing, a dot at the start of a relative path does count. Joining and stripping work on the components and
keep the wording of what is left.
-/

namespace ComponentAudit

/-- The name of an entry of a directory. -/
abbrev EntryName := List UInt8

/-- Names may be given as texts. -/
instance : Coe (List String) (List EntryName) := ⟨fun names => names.map fun name => Text.utf8 name.toList⟩

/-- What belongs to names may be asked for with the names as people read them. -/
instance {α : Type} : CoeOut (List (EntryName × α)) (List (String × α)) :=
  ⟨fun named => named.map fun (name, a) => (Text.lossy name, a)⟩

/-- A path as it was written. -/
structure Path where
  bytes : List UInt8
  deriving Repr, DecidableEq, Inhabited

namespace Path

/-- The byte between the parts of a path. -/
abbrev slash : UInt8 := 0x2F

/-- The byte that stands for the directory itself, and twice for the one above. -/
abbrev dot : UInt8 := 0x2E

/-- The path as people read it. -/
def text (p : Path) : String :=
  Text.lossy p.bytes

/-- The text of the path, if it is UTF-8. -/
def text? (p : Path) : Option (List Char) :=
  Text.Utf8.decode? p.bytes

/-- Whether the path is UTF-8. -/
def isText (p : Path) : Bool :=
  p.text?.isSome

/-- What one step of a path says. -/
inductive Component where
  /-- The root directory, at the start of an absolute path. -/
  | root
  /-- A dot at the start of a relative path. -/
  | here
  /-- Two dots. -/
  | parent
  /-- A file or directory name. -/
  | name (bytes : EntryName)
  deriving Repr, DecidableEq

/-- What stands between the slashes of a path. -/
def parts (p : Path) : List EntryName :=
  Text.split slash p.bytes

/-- What a part says within a path: nothing if it is empty or a dot. -/
def component? (part : EntryName) : Option Component :=
  if part = [] ∨ part = [dot] then none
  else if part = [dot, dot] then some .parent
  else some (.name part)

/-- A path that starts at the root directory. -/
def isAbsolute (p : Path) : Bool :=
  p.bytes.head? == some slash

/-- The component that a path opens with apart from names and double dots, and the parts after it. -/
def opening (p : Path) : Option Component × List EntryName :=
  match p.parts with
  | [] => (none, [])
  | [[]] => (none, [])
  | [] :: rest => (some .root, rest)
  | part :: rest => if part = [dot] then (some .here, rest) else (none, part :: rest)

/-- What the path says, step by step. -/
def components (p : Path) : List Component :=
  let (first, rest) := p.opening
  first.toList ++ rest.filterMap component?

/-- The parts without those at the end that say nothing. -/
def dropTrailing (parts : List EntryName) : List EntryName :=
  (parts.reverse.dropWhile fun part => component? part = none).reverse

/-- The parts after the first `n` that say something, without what says nothing before or after them. -/
def partsAfter : Nat → List EntryName → List EntryName
  | 0, parts => dropTrailing (parts.dropWhile fun part => component? part = none)
  | _ + 1, [] => []
  | n + 1, part :: rest => if component? part = none then partsAfter (n + 1) rest else partsAfter n rest

/-- The path of the parts. -/
def ofParts (parts : List EntryName) : Path :=
  ⟨Text.join slash parts⟩

/-- What is left of a path after its first `n` components, as it was written. -/
def dropComponents (p : Path) (n : Nat) : Path :=
  match n, p.opening with
  | 0, (none, parts) => ofParts (dropTrailing parts)
  | 0, (some .root, parts) => ⟨slash :: (ofParts (dropTrailing parts)).bytes⟩
  | 0, (some _, parts) => ofParts ([dot] :: dropTrailing parts)
  | n + 1, (none, parts) => ofParts (partsAfter (n + 1) parts)
  | n + 1, (some _, parts) => ofParts (partsAfter n parts)

/-- The path below a base, or nothing if the components of the base are not the first ones of the path. -/
def stripPrefix? (p base : Path) : Option Path :=
  if base.components.isPrefixOf p.components then some (p.dropComponents base.components.length) else none

/-- The path below a base where it is below it, else the path itself. -/
def relativeTo (p base : Path) : Path :=
  (p.stripPrefix? base).getD p

/-- The path of `other` seen from the directory `base`; an absolute path stands for itself. -/
def append (base other : Path) : Path :=
  if other.isAbsolute then other
  else if base.bytes = [] ∨ base.bytes.getLast? = some slash then ⟨base.bytes ++ other.bytes⟩
  else ⟨base.bytes ++ slash :: other.bytes⟩

instance : HDiv Path Path Path := ⟨append⟩

/-- The name that a path ends in. -/
def fileName? (p : Path) : Option EntryName :=
  match p.components.getLast? with
  | some (.name bytes) => some bytes
  | _ => none

/-- The directory that the path's last part is in, as it was written. -/
def directory (p : Path) : Path :=
  match p.bytes.reverse.dropWhile (· ≠ slash) with
  | [] => ⟨[dot]⟩
  | before => ⟨before.reverse⟩

/-- The part of a file name after its last dot, for a dot that is not its first character. -/
def extensionOf? (name : EntryName) : Option EntryName :=
  match name.reverse.span (· ≠ dot) with
  | (_, []) => none
  | (_, [_]) => none
  | (after, _ :: _) => some after.reverse

/-- The part of the path's file name after its last dot. -/
def extension? (p : Path) : Option EntryName :=
  p.fileName?.bind extensionOf?

end Path

end ComponentAudit
