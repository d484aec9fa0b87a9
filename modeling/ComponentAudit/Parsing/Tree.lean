import ComponentAudit.Parsing.Scanner

/-!
# Trees

What the parser makes of a text: tokens, rules with their parts, and parts that could not be read. A tree carries what it
costs, so that readings of a text with errors can be compared: the text passed over, the tokens missed, and the parts
that were understood but had to be dropped.
-/

namespace ComponentAudit.Parsing

/-- What a node of a tree is. -/
inductive NodeKind where
  | token (index : Nat)
  | rule (index : Nat)
  | endOfText
  /-- Text that could not be read, and parts that were dropped. -/
  | error
  /-- Lexemes passed over on the way to an error; their parts stand in its place. -/
  | passed
  deriving Repr, DecidableEq

/-- What a node says of itself. -/
structure NodeLabel where
  kind : NodeKind
  /-- The name that a rule around it calls it by. -/
  name : Option String
  /-- Where the blanks before it start. -/
  before : Place
  start : Place
  stop : Place
  /-- The node may stand anywhere, and is no part of the rule around it. -/
  extra : Bool
  /-- The token is not in the text. -/
  missing : Bool
  /-- The token is a word that could be a name. -/
  isKeyword : Bool
  cost : Nat
  weight : Int
  /-- The number of nodes below it that show. -/
  shown : Nat
  /-- The number of nodes that show right below it, hidden ones left out. -/
  shownParts : Nat

/-- A tree over a text. -/
inductive Tree where
  | node (label : NodeLabel) (parts : List Tree)

namespace Tree

/-- What the node on top says of itself. -/
def label : Tree → NodeLabel
  | node label _ => label

/-- The parts of a tree. -/
def parts : Tree → List Tree
  | node _ parts => parts

def cost (t : Tree) : Nat := t.label.cost

def weight (t : Tree) : Int := t.label.weight

/-- Whether a tree is an error. -/
def isError (t : Tree) : Bool :=
  t.label.kind == .error

/-- Whether a tree is the end of the text. -/
def isEnd (t : Tree) : Bool :=
  t.label.kind == .endOfText

/-- Changes the label on top. -/
def relabel (f : NodeLabel → NodeLabel) : Tree → Tree
  | node label parts => node (f label) parts

/-- The price of parts that had to be dropped. -/
def droppedCost : Nat := 100

/-- The price of a token that is not in the text, which also is an error. -/
def missingCost : Nat := 110

/-- The price of an error. -/
def errorCost : Nat := 500

/-- The price of a line passed over, beside its bytes. -/
def lineCost : Nat := 30

/-- The price of passing over the text between two places. -/
def passCost (start stop : Place) : Nat :=
  (stop.offset - start.offset) + lineCost * (stop.row - start.row)

/-- The tree of a lexeme. -/
def ofLexeme (endOfText : Nat) (l : Scanner.Lexeme) : Tree :=
  let kind := match l.token? with
    | some token => if token = endOfText then NodeKind.endOfText else .token token
    | none => .error
  node ⟨kind, none, l.before, l.start, l.stop, kind == .endOfText, false, l.isKeyword, 0, 0, 0, 0⟩ []

/-- A token that is not in the text. -/
def ofMissing (token : Nat) (place : Place) : Tree :=
  node ⟨.token token, none, place, place, place, false, true, false, missingCost + errorCost, 0, 0, 0⟩ []

/-- Whether a tree shows as a node of its own. -/
def shows (g : PlainGrammar) (t : Tree) : Bool :=
  match t.label.kind with
  | .token _ | .error => true
  | .endOfText | .passed => false
  | .rule r => g.rules[r]?.any (·.visible)

/-- The number of nodes of a tree that show, with one for a lexeme passed over. -/
def size (g : PlainGrammar) (t : Tree) : Nat :=
  t.label.shown + (if t.shows g then 1 else 0) + (if t.label.kind = .passed then 1 else 0)

/-- What a part costs beside its own cost, as a part of an error. -/
def droppedCostOf (g : PlainGrammar) (t : Tree) : Nat :=
  if t.label.extra || (t.isError && t.parts.isEmpty) then 0
  else if t.shows g then droppedCost
  else droppedCost * t.label.shownParts

/-- The tree of a kind with some parts; without parts, it stands at a place. -/
def ofParts (g : PlainGrammar) (kind : NodeKind) (place : Place) (parts : List Tree) : Tree :=
  let isError := kind = .error ∨ kind = .passed
  let before := match parts with
    | [] => place
    | first :: _ => first.label.before
  let start := match parts with
    | [] => place
    | first :: _ => first.label.start
  let stop := match parts.getLast? with
    | none => place
    | some last => if last.label.stop.offset < start.offset then start else last.label.stop
  let total (count : Tree → Nat) : Nat := parts.foldr (fun t n => count t + n) 0
  let own := total fun t => if t.label.kind = .passed then 0 else t.cost
  let dropped := if isError then total (droppedCostOf g) + errorCost + passCost start stop else 0
  node { kind := kind, name := none, before := before, start := start, stop := stop
         extra := false, missing := false, isKeyword := false
         cost := own + dropped
         weight := parts.foldr (fun t n => t.weight + n) 0
         shown := total fun t => t.label.shown + if t.shows g then 1 else 0
         shownParts := total fun t => if t.shows g then 1 else t.label.shownParts } parts

/-- Gives parts the names that a rule calls them by; extras are skipped. -/
def rename : List (Option String) → List Tree → List Tree
  | [], parts => parts
  | _, [] => []
  | name :: names, t :: parts =>
    if t.label.extra then t :: rename (name :: names) parts
    else match name with
      | some name => t.relabel ({ · with name := some name }) :: rename names parts
      | none => t :: rename names parts

/-- Splits the extras off the end of some parts. -/
def splitExtras (parts : List Tree) : List Tree × List Tree :=
  let extras := (parts.reverse.takeWhile fun t => t.label.extra).reverse
  (parts.take (parts.length - extras.length), extras)

/-- Whether a reading is to be replaced by another one of the same text: one that costs less, or weighs more, or is as bad
as the first. -/
def yieldsTo (a b : Tree) : Bool :=
  if a.cost ≠ b.cost then b.cost < a.cost
  else if a.weight ≠ b.weight then a.weight < b.weight
  else 0 < a.cost

/-- Whether two trees stand for the same reading of the same text, as far as the parser tells readings apart. -/
def agrees (a b : Tree) : Bool :=
  a.label.kind == b.label.kind &&
    ((0 < a.cost && 0 < b.cost) ||
      (a.label.before.same b.label.before && a.label.start.same b.label.start && a.label.stop.same b.label.stop &&
        a.parts.length == b.parts.length && a.label.extra == b.label.extra))

end Tree

end ComponentAudit.Parsing
