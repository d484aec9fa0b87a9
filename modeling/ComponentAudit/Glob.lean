import ComponentAudit.Path
import ComponentAudit.Pattern.Regex

/-!
# Globs

The patterns by which a scan passes over paths. A star stands for any text, a question mark for one character, a class in
brackets for one of its characters, and two stars that are a whole component of the pattern for any number of components.
All of them stand for slashes, too.
-/

namespace ComponentAudit

open Pattern

/-- Why a text is no glob. -/
inductive GlobFault where
  /-- More than two stars in a row. -/
  | tooManyStars
  /-- Two stars next to something else than a slash. -/
  | partialComponent
  /-- A bracket that opens no class. -/
  | noClass
  deriving Repr, DecidableEq

/-- What is wrong with a text, and where: the number of characters before it. -/
structure GlobError where
  position : Nat
  fault : GlobFault
  deriving Repr, DecidableEq

/-- The text of the error. -/
def GlobError.message (e : GlobError) : String :=
  let reason := match e.fault with
    | .tooManyStars => "wildcards are either regular `*` or recursive `**`"
    | .partialComponent => "recursive wildcards must form a single path component"
    | .noClass => "invalid range pattern"
  s!"Pattern syntax error near position {e.position}: {reason}"

/-- A part of a glob. -/
inductive GlobPart where
  /-- One character of a set. -/
  | one (s : Charset)
  /-- Any text. -/
  | any
  /-- Any number of components. -/
  | components
  deriving Repr

/-- A pattern for paths. -/
structure Glob where
  parts : List GlobPart
  deriving Repr

namespace Glob

/-- The members of a class: ranges, and characters that stand for themselves. -/
def members : List Char → List Charset
  | low :: '-' :: high :: rest => .range low high :: members rest
  | c :: rest => .single c :: members rest
  | [] => []

/-- The class that follows a bracket, and the rest. Its first character is a member even if it is a bracket. -/
def class? (negated : Bool) : List Char → Option (Charset × List Char)
  | first :: rest =>
    if rest.contains ']' then
      some (.complementIf negated (.unions (members (first :: rest.takeWhile (· ≠ ']')))),
        (rest.dropWhile (· ≠ ']')).drop 1)
    else none
  | [] => none

/-- The class that follows a bracket, with an exclamation mark for all but its members. -/
def bracket? : List Char → Option (Charset × List Char)
  | '!' :: rest => class? true rest
  | rest => class? false rest

theorem class?_length {negated : Bool} {s : List Char} {set : Charset} {rest : List Char}
    (h : class? negated s = some (set, rest)) : rest.length ≤ s.length := by
  cases s with
  | nil => simp [class?] at h
  | cons first tail =>
    simp only [class?] at h
    split at h
    · obtain ⟨-, rfl⟩ := Prod.mk.inj (Option.some.inj h)
      simpa using Nat.le_succ_of_le (Nat.le_trans (Nat.sub_le _ 1)
        (List.Sublist.length_le (List.dropWhile_sublist _)))
    · cases h

theorem bracket?_length {s : List Char} {set : Charset} {rest : List Char} (h : bracket? s = some (set, rest)) :
    rest.length ≤ s.length := by
  unfold bracket? at h
  split at h
  · exact Nat.le_succ_of_le (class?_length h)
  · exact class?_length h

/-- The parts of a pattern, of which some characters have been read; the last of them is known. -/
def partsOf (position : Nat) (before : Option Char) : List Char → Except GlobError (List GlobPart)
  | [] => .ok []
  | '?' :: rest => return .one .all :: (← partsOf (position + 1) (some '?') rest)
  | '*' :: '*' :: '*' :: _ => .error ⟨position + 2, .tooManyStars⟩
  | '*' :: '*' :: rest =>
    if before.isNone ∨ before = some '/' then
      match rest with
      | [] => .ok [.components]
      | '/' :: rest => return .components :: (← partsOf (position + 3) (some '/') rest)
      | _ :: _ => .error ⟨position + 2, .partialComponent⟩
    else .error ⟨position - 1, .partialComponent⟩
  | '*' :: rest => return .any :: (← partsOf (position + 1) (some '*') rest)
  | '[' :: rest =>
    match h : bracket? rest with
    | some (set, after) =>
      return .one set :: (← partsOf (position + 1 + (rest.length - after.length)) (some ']') after)
    | none => .error ⟨position, .noClass⟩
  | c :: rest => return .one (.single c) :: (← partsOf (position + 1) (some c) rest)
termination_by s => s.length
decreasing_by
  all_goals simp only [List.length_cons]
  all_goals try have shorter := bracket?_length h
  all_goals omega

/-- The glob of a text. -/
def parse (text : String) : Except GlobError Glob := do
  return ⟨← partsOf 0 none text.toList⟩

/-- The expression of a part. Components end before a slash, unless nothing follows them. -/
def partRegex : GlobPart → Regex
  | .one s => .set s
  | .any => .repetition (.set .all) 0 none true
  | .components =>
    .either .empty
      (.concat (.repetition (.set .all) 0 none true) (.either (.set (.single '/')) (.look .textEnd)))

/-- The expression of a glob. -/
def regex (g : Glob) : Regex :=
  .sequence (g.parts.map partRegex)

/-- Whether a glob stands for a path. A path that is not UTF-8 is none that a glob stands for. -/
def «matches» (g : Glob) (path : Path) : Bool :=
  path.text?.any g.regex.accepts

end Glob

end ComponentAudit
