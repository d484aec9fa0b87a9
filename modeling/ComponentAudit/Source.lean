import ComponentAudit.FileKind
import ComponentAudit.Issue

/-!
# Source files

A file under check: its path below the root, its kind and its text. Positions are turned into places of the file, with a
span of bytes.
-/

namespace ComponentAudit

open Text

/-- A file under check. -/
structure SourceFile where
  /-- The path below the root of the scan. -/
  relativePath : Path
  kind : FileKind
  content : List Char
  deriving Repr, DecidableEq

namespace SourceFile

/-- The file at a path, seen from a root; a path that is not below the root is kept. -/
def ofPath (path : Path) (content : List Char) (root : Path) (kind : FileKind) : SourceFile :=
  { relativePath := path.relativeTo root, kind, content }

/-- The lines of the file. -/
def lines (f : SourceFile) : List Line :=
  numberedLines f.content

/-- A place of the file without a span. -/
def location (f : SourceFile) (line column : Nat) : Location :=
  { file := f.relativePath, line, column }

/-- The offset and the size of the character at an index of a text. -/
def charSpan? : List Char → Nat → Option (Nat × Nat)
  | [], _ => none
  | c :: _, 0 => some (0, c.utf8Size)
  | c :: rest, n + 1 => (charSpan? rest n).map fun (offset, size) => (c.utf8Size + offset, size)

/-- The span of the character at a line and a column. -/
def pointSpan? (f : SourceFile) (line column : Nat) : Option (Nat × Nat) :=
  (f.lines.find? fun l => l.number = line).bind fun l =>
    (charSpan? l.text (column - 1)).map fun (offset, size) => (l.offset + offset, size)

/-- The place of the character at a line and a column; where there is none, the span is empty. -/
def point (f : SourceFile) (line column : Nat) : Location :=
  match f.pointSpan? line column with
  | some (offset, length) => { f.location line column with offset, length }
  | none => f.location line column

/-- The place of a span of bytes. An offset past the end counts as the end; for one within a character, line and column
are those of the end of the text. -/
def locate (f : SourceFile) (offset length : Nat) : Location :=
  let offset := min offset (byteLength f.content)
  let before := (takeBytes? offset f.content).getD f.content
  let position := Position.start.advance before
  { f.location position.line position.column with offset, length }

end SourceFile

end ComponentAudit
