import ComponentAudit.Parsing.Automaton
import ComponentAudit.Text.Position

/-!
# Scanning

Finds the next token of a text, among those that a state of the parser can take: blanks that no token takes are skipped,
and the longest text of a token is taken. Where none of them stands, the scanner looks for a sign to go on from, and takes
what stands before it for text that cannot be read.
-/

namespace ComponentAudit.Parsing

open Text (takeBytes?)

/-- A place in a text: what is still to come, and how many bytes, line feeds, and bytes of the same line stand before. -/
structure Place where
  rest : List Char
  offset : Nat
  row : Nat
  column : Nat
  deriving Repr

namespace Place

/-- The start of a text. -/
def start (s : List Char) : Place :=
  ⟨s, 0, 0, 0⟩

/-- The place after a character, with what is to come after it. -/
def pass (p : Place) (c : Char) (rest : List Char) : Place :=
  if c = '\n' then ⟨rest, p.offset + 1, p.row + 1, 0⟩
  else ⟨rest, p.offset + c.utf8Size, p.row, p.column + c.utf8Size⟩

/-- The place after the next character. -/
def next (p : Place) : Place :=
  match p.rest with
  | [] => p
  | c :: rest => p.pass c rest

/-- The text from one place to a later one. -/
def textTo (p q : Place) : List Char :=
  (takeBytes? (q.offset - p.offset) p.rest).getD []

/-- Whether two places of one text are the same. -/
def same (p q : Place) : Bool :=
  p.offset == q.offset

end Place

/-- A token that is being read: what is left to be read of it. -/
structure Candidate where
  index : Nat
  priority : Nat
  rank : Nat
  immediate : Bool
  left : TokenExpr

namespace Candidate

/-- Goes on with a character, if the token does. -/
def after (c : Char) (k : Candidate) : Option Candidate :=
  let left := k.left.after c
  if left = .nothing then none else some { k with left := left }

/-- Whether a token that is read is taken before another one of the same length. -/
def precedes (a b : Candidate) : Bool :=
  if a.priority = b.priority then
    if a.rank = b.rank then a.index < b.index else b.rank < a.rank
  else b.priority < a.priority

/-- The token to take of those that are read. -/
def best? (live : List Candidate) : Option Candidate :=
  live.foldl (fun best k =>
    if !k.left.acceptsBlank then best
    else match best with
      | none => some k
      | some b => if k.precedes b then some k else best) none

end Candidate

/-- What a scanner finds. -/
inductive Scan where
  /-- A token, or the end of the text, from place to place. -/
  | token (index : Nat) (start stop : Place)
  /-- Nothing; where it looked, and how far some token went on. -/
  | nothing (start reach : Place)

/-- A blank that may stand between tokens. -/
def isSpacing (c : Char) : Bool :=
  c == ' ' || ('\t' ≤ c && c ≤ '\r')

/-- Skips the blanks that none of the candidates takes. After them, what has to stand immediately is out. -/
def skipSpacing : List Char → Place → List Candidate → Place × List Candidate
  | [], place, live => (place, live)
  | c :: rest, place, live =>
    if isSpacing c && live.all fun k => (k.after c).isNone then
      skipSpacing rest (place.pass c rest) (live.filter fun k => !k.immediate)
    else (place, live)

/-- The longest token among candidates: how far it goes if there is one, and how far any of them went on. A token that is
read does not give way to tokens of lower priority. -/
def longest (start : Place) : List Char → Place → List Candidate → Option (Nat × Place) → Scan
  | rest, place, live, found =>
    let best := Candidate.best? live
    let found := (best.map fun k => (k.index, place)) <|> found
    let stopped : Scan := match found with
      | some (index, stop) => .token index start stop
      | none => .nothing start place
    match rest with
    | [] => stopped
    | c :: rest =>
      let going := live.filterMap (Candidate.after c)
      let goesOn := going.any fun k => best.all fun b => b.priority ≤ k.priority
      if goesOn then longest start rest (place.pass c rest) going found else stopped

/-- What the scanner knows of a language. -/
structure Scanner where
  automaton : Automaton
  /-- The tokens with nothing read. -/
  candidates : Array Candidate
  /-- The tokens that are words, by text. -/
  keywords : List (List Char × Nat)

namespace Scanner

/-- The scanner of a language. -/
def ofAutomaton (a : Automaton) : Scanner where
  automaton := a
  candidates := a.grammar.tokens.mapIdx fun i t => ⟨i, t.priority, t.rank, t.immediate, t.expr⟩
  keywords := match a.grammar.tokens[a.grammar.names]? with
    | some names => a.grammar.tokens.toList.zipIdx.filterMap fun (t, i) => (t.keyword? names).map fun word => (word, i)
    | none => []

/-- The tokens to look for in a state; a word is looked for as a name. -/
def sought (s : Scanner) (state : Nat) : List Nat :=
  distinct (((s.automaton.states[state]?.map AutomatonState.actions).getD []).map fun (token, _) =>
    if s.keywords.any (·.2 == token) then s.automaton.grammar.names else token)

/-- Whether a token stands for the end of a text. -/
def isEndMark (s : Scanner) (token : Nat) : Bool :=
  s.automaton.grammar.tokens[token]?.any fun t => t.shape = .fixed "\x00"

/-- The next token among some. A mark of byte order at the start is skipped. -/
def scan (s : Scanner) (tokens : List Nat) (place : Place) : Scan :=
  let place := if place.offset = 0 ∧ place.rest.head? = some '\uFEFF' then place.next else place
  let live := tokens.filterMap fun i => s.candidates[i]?
  let (start, live) := skipSpacing place.rest place live
  let atEnd := if start.rest.isEmpty then
      (tokens.find? (· == s.automaton.grammar.endOfText)) <|> tokens.find? s.isEndMark
    else none
  match atEnd with
  | some token => .token token start start
  | none => longest start start.rest start live none

/-- What the parser reads in one go. -/
structure Lexeme where
  /-- The token; none for text that cannot be read. -/
  token? : Option Nat
  /-- Where the blanks before it start. -/
  before : Place
  start : Place
  stop : Place
  /-- It is a word that could be a name. -/
  isKeyword : Bool

/-- Passes text that cannot be read, up to a place where the scanner finds a sign to go on from. -/
def passUnread (s : Scanner) (before start : Place) : Nat → (stop reach : Place) → Lexeme
  | 0, stop, _ => ⟨none, before, start, stop, false⟩
  | fuel + 1, stop, reach =>
    let reach := if reach.same stop then reach.next else reach
    match s.scan (s.sought 0) reach with
    | .token _ _ _ => ⟨none, before, start, reach, false⟩
    | .nothing _ further => passUnread s before start fuel reach further

/-- The lexeme of a token in a state. A word is the token that it spells if the state can take that. -/
def lexeme (s : Scanner) (state token : Nat) (before start stop : Place) : Lexeme :=
  let word? := if token = s.automaton.grammar.names then s.keywords.lookup (start.textTo stop) else none
  let token := match word? with
    | some word => if (s.automaton.actions state word).isEmpty then token else word
    | none => token
  ⟨some token, before, start, stop, word?.isSome⟩

/-- The next lexeme for a state. -/
def read (s : Scanner) (state : Nat) (place : Place) : Lexeme :=
  match s.scan (s.sought state) place with
  | .token token start stop => s.lexeme state token place start stop
  | .nothing _ _ => match s.scan (s.sought 0) place with
    | .token token start stop => s.lexeme state token place start stop
    | .nothing start reach => s.passUnread place start (place.rest.length + 1) start reach

end Scanner

end ComponentAudit.Parsing
