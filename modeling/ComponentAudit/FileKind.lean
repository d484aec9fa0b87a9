import ComponentAudit.Path

/-!
# File kinds

The two kinds of file that are checked: sources with a grammar and component templates. A file's kind is its extension.
-/

namespace ComponentAudit

/-- The kind of a checked file. -/
inductive FileKind where
  /-- A source file, which a parser checks. -/
  | go
  /-- A component template, which is checked for its outline only. -/
  | templ
  deriving Repr, DecidableEq

namespace FileKind

/-- The kinds, in the order in which they are listed. -/
def all : List FileKind := [.go, .templ]

/-- The file extension of a kind, by which it is also written. -/
def name : FileKind → String
  | .go => "go"
  | .templ => "templ"

/-- The kind of a name. -/
def ofName? (s : String) : Option FileKind :=
  all.find? (·.name = s)

/-- The kind of an extension. -/
def ofExtension? (extension : EntryName) : Option FileKind :=
  (Text.Utf8.decode? extension).bind fun name => ofName? (String.ofList name)

/-- The kind of a file, by the extension of its path. -/
def ofPath? (p : Path) : Option FileKind :=
  p.extension?.bind ofExtension?

/-- A kind's name is its own. -/
@[simp] theorem ofName?_name (k : FileKind) : ofName? k.name = some k := by
  cases k <;> rfl

end FileKind

end ComponentAudit
