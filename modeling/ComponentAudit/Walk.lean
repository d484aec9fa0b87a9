import ComponentAudit.Config
import ComponentAudit.Glob
import ComponentAudit.GitIgnore

/-!
# Walking a file tree

The files of a tree that are to be checked, in the order of their names, directory by directory. What is passed over is
left out on the way down, with all that is below it. A directory on the way that may not be opened stands in the walk as an
error; it is the only one that comes up here, as what a faulty ignore file above the root may have to say is left out
(`GitIgnore`).
-/

namespace ComponentAudit

/-- A file to be checked. -/
structure Candidate where
  path : Path
  kind : FileKind
  deriving Repr, DecidableEq

/-- Why a tree could not be walked. -/
structure WalkError where
  root : Path
  /-- Where the walk failed: the root itself, or a directory below it. -/
  path : Path
  error : FileError
  deriving Repr, DecidableEq

/-- The text of the error. -/
def WalkError.message (e : WalkError) : String :=
  s!"failed to walk {e.root.text}: {e.path.text}: IO error for operation on {e.path.text}: {e.error.message}"

namespace FileTree

/-- Whether a tree is a directory. -/
def isDirectory : FileTree → Bool
  | directory _ => true
  | closed isDirectory => isDirectory
  | _ => false

/-- Whether a tree is a file. -/
def isPlainFile : FileTree → Bool
  | file _ => true
  | closed isDirectory => !isDirectory
  | _ => false

/-- Things that belong to names, in the order of the names. -/
def inOrder {α : Type} (named : List (EntryName × α)) : List (EntryName × α) :=
  named.mergeSort fun a b => !decide (b.1 < a.1)

mutual

/-- What is below a tree, each entry before what is below it, and without the entries to skip and what is below them. An
entry is known by the names that lead to it; those that lead to the tree itself are given. -/
def listing (skip : List EntryName → FileTree → Bool) (names : List EntryName) : FileTree → List (List EntryName × FileTree)
  | file _ | link _ | closed _ => []
  | directory entries => (inOrder (listings skip names entries)).flatMap (·.2)

/-- What is at and below each of some entries. -/
def listings (skip : List EntryName → FileTree → Bool) (names : List EntryName) :
    List (EntryName × FileTree) → List (EntryName × List (List EntryName × FileTree))
  | [] => []
  | (name, t) :: rest =>
    (name, if skip (names ++ [name]) t then [] else (names ++ [name], t) :: listing skip (names ++ [name]) t) ::
      listings skip names rest

end

end FileTree

/-- A way to walk a tree. -/
structure Walker where
  root : Path
  /-- The names of directories that are passed over. -/
  excludedDirs : List String := defaultExcludedDirs
  /-- Patterns of paths below the root that are passed over. -/
  globs : List Glob := []
  /-- Whether what Git ignores is passed over. -/
  gitIgnore : Bool := false

namespace Walker

/-- Whether an entry below the root is passed over for its name or its path. -/
def excludes (w : Walker) (names : List EntryName) (isDirectory : Bool) : Bool :=
  (isDirectory && names.getLast?.any fun name => w.excludedDirs.any fun dir => dir.toList = Text.Utf8.decodeLossy name) ||
    w.globs.any fun g => g.matches (.ofParts names)

/-- Whether an entry below the root is passed over. -/
def skips (w : Walker) (files : FileTree) (root names : List EntryName) (t : FileTree) : Bool :=
  w.excludes names t.isDirectory || (w.gitIgnore && GitIgnore.ignores files root names t.isDirectory)

/-- The path of an entry below the root. -/
def pathOf (w : Walker) (names : List EntryName) : Path :=
  names.foldl (fun p name => p / ⟨name⟩) w.root

/-- The candidate at a path: a file of a kind that is checked. -/
def candidate? (path : Path) (t : FileTree) : Option Candidate :=
  if t.isPlainFile then (FileKind.ofPath? path).map fun kind => { path, kind } else none

/-- What comes of visiting a path: a candidate, or an error where a directory may not be opened. -/
def visit? (w : Walker) (path : Path) (t : FileTree) : Option (Except WalkError Candidate) :=
  match t with
  | .closed true => some (.error ⟨w.root, path, .denied⟩)
  | t => (candidate? path t).map .ok

/-- What comes of visiting all below the root, given where the root is. Links below it are not followed. -/
def below (w : Walker) (files : FileTree) (root : List EntryName) (t : FileTree) : List (Except WalkError Candidate) :=
  (t.listing (w.skips files root) []).filterMap fun (names, t) => w.visit? (w.pathOf names) t

/-- The files to be checked, and where they cannot be known. The root itself is never passed over, and it may be a file or
a link. -/
def walk (w : Walker) (files : FileTree) : List (Except WalkError Candidate) :=
  match files.resolve w.root with
  | .error e => [.error ⟨w.root, w.root, e⟩]
  | .ok (names, t) => (w.visit? w.root t).toList ++ w.below files names t

end Walker

end ComponentAudit
