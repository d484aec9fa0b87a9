import ComponentAudit.Pattern.Charset
import Std.Data.HashSet

/-!
# Matching

A regular expression and the places that it leads to. From a place in a text an expression leads to several others; they
are listed in the order of preference, the first being the one that counts, and each place once. So the meaning of an
expression is one function, `Regex.ends`, and a search takes the first place from which it leads anywhere.
-/

namespace ComponentAudit.Pattern

/-- A condition on the characters before and after a place. -/
inductive Look where
  | textStart
  | textEnd
  | lineStart
  | lineEnd
  /-- The start of a line that may end in a carriage return and a line feed. -/
  | crlfStart
  | crlfEnd
  | boundary (unicode : Bool)
  | notBoundary (unicode : Bool)
  | wordStart (unicode : Bool)
  | wordEnd (unicode : Bool)
  | wordStartHalf (unicode : Bool)
  | wordEndHalf (unicode : Bool)
  deriving Repr, DecidableEq

/-- A regular expression. -/
inductive Regex where
  | empty
  | set (s : Charset)
  | look (l : Look)
  | concat (a b : Regex)
  /-- Either of two; the first is preferred. -/
  | either (a b : Regex)
  /-- From `min` to `max` times, preferably often if greedy. -/
  | repetition (r : Regex) (min : Nat) (max : Option Nat) (greedy : Bool)
  deriving Repr

/-- A place in a text: the character before it, what follows, and how much that is. -/
structure Cursor where
  before : Option Char
  rest : List Char
  left : Nat

namespace Cursor

/-- The start of a text. -/
def start (s : List Char) : Cursor :=
  ⟨none, s, s.length⟩

/-- The place after the next character. -/
def next? (c : Cursor) : Option Cursor :=
  match c.rest with
  | [] => none
  | x :: rest => some ⟨some x, rest, c.left - 1⟩

end Cursor

namespace Look

/-- Whether a character that may be missing belongs to a word. -/
def isWord (unicode : Bool) : Option Char → Bool
  | some c => if unicode then isWordChar c else isAsciiWordChar c
  | none => false

/-- Whether the condition holds between two characters, either of which may be missing. -/
def holds (before after : Option Char) : Look → Bool
  | textStart => before.isNone
  | textEnd => after.isNone
  | lineStart => before.isNone || before == some '\n'
  | lineEnd => after.isNone || after == some '\n'
  | crlfStart => before.isNone || before == some '\n' || (before == some '\r' && after != some '\n')
  | crlfEnd => after.isNone || after == some '\r' || (after == some '\n' && before != some '\r')
  | boundary u => isWord u before != isWord u after
  | notBoundary u => isWord u before == isWord u after
  | wordStart u => !isWord u before && isWord u after
  | wordEnd u => isWord u before && !isWord u after
  | wordStartHalf u => !isWord u before
  | wordEndHalf u => !isWord u after

end Look

/-- Places found so far, latest first, and how much text each of them leaves. -/
structure Found where
  places : List Cursor
  seen : Std.HashSet Nat

namespace Found

/-- No place yet. -/
def empty : Found := ⟨[], ∅⟩

/-- Adds a place unless it is there. -/
def add (f : Found) (c : Cursor) : Found :=
  if f.seen.contains c.left then f else ⟨c :: f.places, f.seen.insert c.left⟩

/-- The places in the order in which they were found. -/
def toList (f : Found) : List Cursor :=
  f.places.reverse

end Found

/-- The places of a list without repetitions, each where it stands first. -/
def distinct (places : List Cursor) : List Cursor :=
  match places with
  | [] => []
  | [c] => [c]
  | _ => (places.foldl Found.add .empty).toList

/-- The places that one or more rounds lead to. A round that goes nowhere ends the repetition. -/
def rounds (step : Cursor → List Cursor) (greedy : Bool) : Nat → Cursor → Found → Found
  | 0, _, found => found
  | n + 1, c, found =>
    (step c).foldl
      (fun found e =>
        if found.seen.contains e.left then found
        else if e.left = c.left then found.add e
        else if greedy then (rounds step greedy n e found).add e
        else rounds step greedy n e (found.add e))
      found

/-- The places that one or more rounds lead to, in order of preference. -/
def atLeastOnce (step : Cursor → List Cursor) (greedy : Bool) (c : Cursor) : List Cursor :=
  (rounds step greedy (c.left + 1) c .empty).toList

/-- The places that a number of rounds leads to. -/
def exactly (step : Cursor → List Cursor) : Nat → List Cursor → List Cursor
  | 0, places => places
  | _ + 1, [] => []
  | n + 1, places => exactly step n (distinct (places.flatMap step))

/-- The places that up to a number of rounds lead to. -/
def upTo (step : Cursor → List Cursor) (greedy : Bool) : Nat → Cursor → List Cursor
  | 0, c => [c]
  | n + 1, c =>
    let more := (step c).flatMap fun e => if e.left = c.left then [e] else upTo step greedy n e
    distinct (if greedy then more ++ [c] else c :: more)

namespace Regex

/-- The places that an expression leads to, in order of preference. A round of a repetition that goes nowhere ends it there and
then. An automaton that does not enter a state twice at one place would try what comes after an empty alternative first: of
`abc`, the expression `(?:ab||c)+` prefers `ab` here, and `abc` there. -/
def ends : Regex → Cursor → List Cursor
  | empty, c => [c]
  | set s, c =>
    match c.rest with
    | x :: rest => if s.contains x then [⟨some x, rest, c.left - 1⟩] else []
    | [] => []
  | look l, c => if l.holds c.before c.rest.head? then [c] else []
  | concat a b, c => distinct ((ends a c).flatMap (ends b))
  | either a b, c => distinct (ends a c ++ ends b c)
  | repetition r 0 none greedy, c =>
    let more := atLeastOnce (ends r) greedy c
    distinct (if greedy then more ++ [c] else c :: more)
  | repetition r (min + 1) none greedy, c =>
    distinct ((exactly (ends r) min [c]).flatMap (atLeastOnce (ends r) greedy))
  | repetition r min (some max) greedy, c =>
    distinct ((exactly (ends r) min [c]).flatMap (upTo (ends r) greedy (max - min)))

/-- A stretch of a text, counted in characters. -/
structure Match where
  start : Nat
  length : Nat
  deriving Repr, DecidableEq

/-- The first match from a place on, of which `start` characters are before it. -/
def findFrom (r : Regex) : Nat → Nat → Cursor → Option Match
  | 0, _, _ => none
  | n + 1, start, c =>
    match r.ends c with
    | e :: _ => some ⟨start, c.left - e.left⟩
    | [] => match c.next? with
      | some d => findFrom r n (start + 1) d
      | none => none

/-- The leftmost match in a text; of those that start there, the preferred one. -/
def find? (r : Regex) (s : List Char) : Option Match :=
  r.findFrom (s.length + 1) 0 (.start s)

/-- Whether an expression leads from the start of a text to its end. -/
def accepts (r : Regex) (s : List Char) : Bool :=
  (r.ends (.start s)).any fun e => e.left = 0

/-- The concatenation of some expressions. -/
def sequence : List Regex → Regex
  | [] => empty
  | [r] => r
  | r :: rest => concat r (sequence rest)

/-- One of some expressions, the first being preferred. -/
def choice : List Regex → Regex
  | [] => set .none
  | [r] => r
  | r :: rest => either r (choice rest)

end Regex

end ComponentAudit.Pattern
