import ComponentAudit.Pattern.Regex
import ComponentAudit.Text.Utf8

/-!
# Patterns of ignore files

The globs of a `.gitignore` file. A star and a question mark stand for anything but a slash, two stars that are a whole
component for directories, braces for one of several patterns. A pattern is matched against the bytes of a path, each of
them as the character of its number.
-/

namespace ComponentAudit.GitIgnore

open Pattern

/-- Some bytes, each as a character. -/
def byteChars (bytes : List UInt8) : List Char :=
  bytes.map fun b => Char.ofNat b.toNat

/-- The bytes of a character, each as a character. -/
def charBytes (c : Char) : List Char :=
  byteChars (Text.utf8 [c])

/-- What the stars after a piece of a pattern need to know about it. -/
inductive Role where
  /-- Two stars at the start. -/
  | opening
  /-- Two stars at the end. -/
  | closing
  /-- A piece that adds nothing to the pattern. -/
  | nothing
  | other
  deriving Repr, DecidableEq

/-- A piece of a pattern. -/
structure Piece where
  role : Role
  regex : Regex
  deriving Repr

namespace Piece

/-- Any byte but a slash. -/
def notSlash : Regex :=
  .set (.complement (.single '/'))

/-- Any bytes. -/
def anything : Regex :=
  .repetition (.set .all) 0 none true

/-- A slash. -/
def slash : Regex :=
  .set (.single '/')

/-- A character that stands for itself. -/
def literal (c : Char) : Piece :=
  ⟨.other, .sequence ((charBytes c).map fun b => .set (.single b))⟩

/-- A question mark. -/
def one : Piece := ⟨.other, notSlash⟩

/-- A star. -/
def run : Piece := ⟨.other, .repetition notSlash 0 none true⟩

/-- Directories before the rest of a path, or none. -/
def opening : Piece := ⟨.opening, .choice [.empty, slash, .concat anything slash]⟩

/-- Directories within a path, or none. -/
def between : Piece := ⟨.other, .choice [slash, .concat slash (.concat anything slash)]⟩

/-- What is below a directory. -/
def closing : Piece := ⟨.closing, .concat slash anything⟩

/-- The bytes of a range of a class. The range proper is between the last byte of one end and the first of the other. -/
def rangeSet (low high : Char) : Charset :=
  let singles (bytes : List Char) : List Charset := bytes.map .single
  let lows := charBytes low
  let highs := charBytes high
  if low = high then .unions (singles lows)
  else match lows.getLast?, highs with
    | some l, h :: rest => .unions (singles lows.dropLast ++ [.range l h] ++ singles rest)
    | _, _ => .none

/-- A class of bytes. -/
def set (negated : Bool) (ranges : List (Char × Char)) : Piece :=
  ⟨.other, .set (.complementIf negated (.unions (ranges.map fun (low, high) => rangeSet low high)))⟩

/-- The expression of some pieces. -/
def sequence (pieces : List Piece) : Regex :=
  .sequence (pieces.map (·.regex))

/-- One of some patterns; patterns that say nothing do not count. -/
def choice (branches : List (List Piece)) : Piece :=
  match branches.filter fun branch => branch.any fun p => p.role ≠ .nothing with
  | [] => ⟨.nothing, .empty⟩
  | rest => ⟨.other, .choice (rest.map sequence)⟩

end Piece

/-- What follows an opening bracket. -/
inductive BracketText where
  /-- A class, with its ranges in reverse and its length. -/
  | closed (ranges : List (Char × Char)) (length : Nat)
  /-- There is no closing bracket. -/
  | unclosed
  /-- A range ends before it starts. -/
  | reversed
  deriving Repr

/-- Reads a class whose first characters are known: the ranges so far in reverse, and whether a range waits for its end. -/
def readBracket (first waiting : Bool) (ranges : List (Char × Char)) (length : Nat) : List Char → BracketText
  | [] => .unclosed
  | c :: rest =>
    if c = ']' ∧ first = false then
      .closed (if waiting then ('-', '-') :: ranges else ranges) (length + 1)
    else if c = '-' ∧ first = false ∧ waiting = false then readBracket false true ranges (length + 1) rest
    else match waiting, ranges with
      | true, (low, _) :: others =>
        if c < low then .reversed else readBracket false false ((low, c) :: others) (length + 1) rest
      | _, _ => readBracket false false ((c, c) :: ranges) (length + 1) rest

/-- The class after an opening bracket: whether it is negated, and its text. -/
def bracket (s : List Char) : Bool × BracketText :=
  match s with
  | '!' :: rest | '^' :: rest => (true, readBracket true false [] 1 rest)
  | rest => (false, readBracket true false [] 0 rest)

/-- Braces that are open: the patterns before the last comma in reverse, and the pieces since then in reverse. -/
structure Branches where
  done : List (List Piece)
  pieces : List Piece

namespace Branches

/-- Nothing read yet. -/
def start : Branches := ⟨[], []⟩

/-- One more piece. -/
def push (b : Branches) (p : Piece) : Branches :=
  { b with pieces := p :: b.pieces }

/-- The next pattern between the braces. -/
def comma (b : Branches) : Branches :=
  ⟨b.pieces.reverse :: b.done, []⟩

/-- The patterns between the braces. -/
def all (b : Branches) : List (List Piece) :=
  b.comma.done.reverse

/-- The last piece, replaced by two stars and the slashes next to them. -/
def widen (b : Branches) (atEnd : Bool) : Branches :=
  match b.pieces with
  | [] => b
  | last :: rest =>
    let p := match last.role with
      | .opening => .opening
      | .closing => .closing
      | _ => if atEnd then .closing else .between
    { b with pieces := p :: rest }

end Branches

/-- Whether two stars after a character may be a whole component, given that they are not at the start. -/
def opensComponent (inBraces : Bool) (before : Option Char) : Bool :=
  before == some '/' || (inBraces && (before == some ',' || before == some '{'))

/-- The expression of a pattern that is read within some braces. Once a bracket has turned out to be open, all brackets
stand for themselves. -/
def read (classes : Bool) (outer : List Branches) (b : Branches) (before : Option Char) : List Char → Option Regex
  | [] =>
    if outer.isEmpty then
      some (match b.pieces with
        | [⟨.opening, _⟩] => Piece.anything
        | pieces => Piece.sequence pieces.reverse)
    else none
  | '?' :: rest => read classes outer (b.push .one) (some '?') rest
  | '*' :: '*' :: rest =>
    let twice := (b.push .run).push .run
    if b.pieces.isEmpty then
      match rest with
      | [] => read classes outer (b.push .opening) (some '*') []
      | '/' :: after => read classes outer (b.push .opening) (some '/') after
      | rest => read classes outer twice (some '*') rest
    else if opensComponent (!outer.isEmpty) before then
      match rest with
      | [] => read classes outer (b.widen true) (some '*') []
      | '/' :: after => read classes outer (b.widen false) (some '/') after
      | c :: after =>
        if (c = ',' ∨ c = '}') ∧ outer.isEmpty = false then read classes outer (b.widen true) (some '*') (c :: after)
        else read classes outer twice (some '*') (c :: after)
    else read classes outer twice (some '*') rest
  | '*' :: rest => read classes outer (b.push .run) (some '*') rest
  | '[' :: rest =>
    if classes then
      match bracket rest with
      | (negated, .closed ranges n) =>
        read classes outer (b.push (.set negated ranges.reverse)) (some ']') (rest.drop n)
      | (_, .unclosed) => read false outer (b.push (.literal '[')) (some '[') rest
      | (_, .reversed) => none
    else read classes outer (b.push (.literal '[')) (some '[') rest
  | '{' :: rest => read classes (b :: outer) .start (some '{') rest
  | '}' :: rest =>
    match outer with
    | [] => none
    | o :: others => read classes others (o.push (.choice b.all)) (some '}') rest
  | ',' :: rest =>
    if outer.isEmpty then read classes outer (b.push (.literal ',')) (some ',') rest
    else read classes outer b.comma (some ',') rest
  | ['\\'] => none
  | '\\' :: c :: rest => read classes outer (b.push (.literal c)) (some c) rest
  | c :: rest => read classes outer (b.push (.literal c)) (some c) rest
termination_by s => s.length
decreasing_by all_goals simp only [List.length_cons, List.length_nil, List.length_drop]; omega

/-- The expression of a pattern. -/
def pattern? (s : List Char) : Option Regex :=
  read true [] .start none s

end ComponentAudit.GitIgnore
