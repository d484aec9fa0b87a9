import ComponentAudit.FileTree
import ComponentAudit.GitIgnore.Pattern
import ComponentAudit.Text.Blank

/-!
# Ignore files

What Git passes over in a repository: the rules of the `.gitignore` files from a directory outwards, and those of the
repository's own list. Among the rules of a file the last one that fits counts, among files the nearest one that has such
a rule.

Left out are faulty patterns in the ignore files of directories above the root of a walk, of which a walk may have to say
something, a `.git` that is a file and leads a worktree to its repository, and the repositories of other tools, such as `.jj`.
-/

namespace ComponentAudit.GitIgnore

open Pattern

/-- A line of an ignore file. -/
structure IgnoreRule where
  pattern : Regex
  /-- What fits is kept, and not ignored. -/
  keeps : Bool
  onlyDirectories : Bool
  deriving Repr

namespace IgnoreRule

/-- A line without the blanks at its end, unless the last one is escaped. -/
def trimmed (line : List Char) : List Char :=
  if ['\\', ' '].isSuffixOf line then line else Text.trimEnd line

/-- A pattern that fits at any depth, unless it says where it starts. -/
def anywhere (anchored : Bool) (pattern : List Char) : List Char :=
  if anchored ∨ '/' ∈ pattern ∨ pattern = ['*', '*'] then pattern else ['*', '*', '/'] ++ pattern

/-- A pattern for what is below a directory does not fit the directory. -/
def below (pattern : List Char) : List Char :=
  if ['/', '*', '*'].isSuffixOf pattern then pattern ++ ['/', '*'] else pattern

/-- A pattern without the slash at its end, and whether there was one. -/
def directoryMark (pattern : List Char) : List Char × Bool :=
  if ['\\', '/'].isSuffixOf pattern then (pattern.dropLast.dropLast, true)
  else if ['/'].isSuffixOf pattern then (pattern.dropLast, true)
  else (pattern, false)

/-- A pattern without the slash at its start, and whether there was one. -/
def anchorMark : List Char → List Char × Bool
  | '/' :: rest => (rest, true)
  | pattern => (pattern, false)

/-- What a line says: its pattern, whether it is anchored, and whether it keeps what fits. -/
def marks : List Char → List Char × Bool × Bool
  | '\\' :: '!' :: rest => ('!' :: rest, false, false)
  | '\\' :: '#' :: rest => ('#' :: rest, false, false)
  | '!' :: rest =>
    let (pattern, anchored) := anchorMark rest
    (pattern, anchored, true)
  | line =>
    let (pattern, anchored) := anchorMark line
    (pattern, anchored, false)

/-- The rule of a line. Comments, empty lines and faulty patterns are none. -/
def ofLine? (line : List Char) : Option IgnoreRule :=
  let trimmed := trimmed line
  if line.head? = some '#' ∨ trimmed = [] then none
  else
    let (pattern, anchored, keeps) := marks trimmed
    let (pattern, onlyDirectories) := directoryMark pattern
    (pattern? (below (anywhere anchored pattern))).map fun pattern => { pattern, keeps, onlyDirectories }

/-- Whether a rule fits a path below the directory of its file. -/
def fits (r : IgnoreRule) (path : Path) (isDirectory : Bool) : Bool :=
  (isDirectory || !r.onlyDirectories) && r.pattern.accepts (byteChars path.bytes)

end IgnoreRule

/-- The lines of some bytes, without line ends. -/
def byteLines : List UInt8 → List (List UInt8)
  | [] => []
  | 13 :: 10 :: rest => [] :: byteLines rest
  | b :: rest =>
    if b = 10 then [] :: byteLines rest
    else match byteLines rest with
      | [] => [[b]]
      | line :: others => (b :: line) :: others

/-- The lines of some bytes as text, up to the first that is not UTF-8. -/
def textLines (bytes : List UInt8) : List (List Char) :=
  (((byteLines bytes).map Text.Utf8.decode?).takeWhile Option.isSome).filterMap id

/-- The rules of a file. A mark of the byte order before the first line does not count. -/
def rules (bytes : List UInt8) : List IgnoreRule :=
  match textLines bytes with
  | [] => []
  | first :: rest => (first.dropWhile (· = '\uFEFF') :: rest).filterMap IgnoreRule.ofLine?

/-- What a rule has to say about a path. -/
inductive Verdict where
  | ignored
  | kept
  deriving Repr, DecidableEq

/-- What some rules say about a path below the directory of their file. -/
def verdict? (rules : List IgnoreRule) (path : Path) (isDirectory : Bool) : Option Verdict :=
  (rules.reverse.find? fun r => r.fits path isDirectory).map fun r => if r.keeps then .kept else .ignored

/-- What a directory says about the paths below it. -/
structure Level where
  /-- The rules of its ignore file. -/
  rules : List IgnoreRule
  /-- The rules of its repository's own list. -/
  excludes : List IgnoreRule
  isRepository : Bool

/-- The rules of a file below a directory. -/
def rulesAt (files : FileTree) (directory : List EntryName) (path : Path) : List IgnoreRule :=
  match (files.findIn directory path.steps).bind FileTree.bytes with
  | .ok bytes => rules bytes
  | .error _ => []

/-- Whether a directory is the top of a repository. -/
def isRepository (files : FileTree) (directory : List EntryName) : Bool :=
  (files.findIn directory [.into ".git"]).isOk

/-- What a directory says about the paths below it. -/
def level (files : FileTree) (directory : List EntryName) : Level :=
  { rules := rulesAt files directory ⟨".gitignore"⟩
    excludes := rulesAt files directory ⟨".git/info/exclude"⟩
    isRepository := isRepository files directory }

/-- The directories from a root down to the one that holds an entry, innermost first, each with the names from it on. -/
def holders (root : List EntryName) : List EntryName → List (List EntryName × List EntryName)
  | [] => []
  | name :: rest => holders (root ++ [name]) rest ++ [(root, name :: rest)]

/-- The levels of the innermost repository. -/
def withinRepository : List (Level × List EntryName) → List (Level × List EntryName)
  | [] => []
  | (l, names) :: rest => if l.isRepository then [(l, names)] else (l, names) :: withinRepository rest

/-- What the levels of a repository say about a path: the ignore files first, and then the list. -/
def decide? (levels : List (Level × List EntryName)) (isDirectory : Bool) : Option Verdict :=
  (levels.findSome? fun (l, names) => verdict? l.rules (.ofParts names) isDirectory) <|>
    levels.findSome? fun (l, names) => verdict? l.excludes (.ofParts names) isDirectory

/-- The directories above the one that some names lead to. -/
def above : List EntryName → List (List EntryName)
  | [] => []
  | name :: rest => [] :: (above rest).map (name :: ·)

/-- Whether Git ignores the entry that some names lead to from a root: outside of repositories nothing is ignored. -/
def ignores (files : FileTree) (root names : List EntryName) (isDirectory : Bool) : Bool :=
  let levels := (holders root names).map fun (directory, names) => (level files directory, names)
  let inRepository := levels.any (·.1.isRepository) || (above root).any (isRepository files)
  inRepository && decide? (withinRepository levels) isDirectory == some .ignored

end ComponentAudit.GitIgnore
