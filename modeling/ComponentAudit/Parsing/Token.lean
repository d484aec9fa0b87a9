import ComponentAudit.Text.Blank
import ComponentAudit.Text.Properties

/-!
# Tokens

A token of a language is the text that an expression over characters describes. Expressions are matched by taking them
apart character by character: `TokenExpr.after` is what an expression leaves to be read once a character has been read.
-/

namespace ComponentAudit.Parsing

open Text

/-- A set of characters that a token names. -/
inductive CharClass where
  | oneOf (members : String)
  | noneOf (members : String)
  | between (low high : Char)
  /-- What opens a name: a letter of any script, or an underscore. -/
  | nameStart
  /-- What goes on with a name: letters, digits, marks and underscores. -/
  | namePart
  deriving Repr, DecidableEq

/-- Whether a character is in a class. -/
def CharClass.contains : CharClass → Char → Bool
  | oneOf members, c => members.toList.contains c
  | noneOf members, c => !members.toList.contains c
  | between low high, c => low ≤ c && c ≤ high
  | nameStart, c => if c.toNat < 128 then c.isAlpha || c == '_' else xidStart.contains c.toNat
  | namePart, c => if c.toNat < 128 then c.isAlphanum || c == '_' else xidContinue.contains c.toNat

/-- The text of a token, as an expression over characters. -/
inductive TokenExpr where
  /-- No text at all. -/
  | nothing
  /-- The empty text. -/
  | blank
  | char (set : CharClass)
  | seq (a b : TokenExpr)
  | either (a b : TokenExpr)
  /-- Any number of times. -/
  | many (a : TokenExpr)
  deriving Repr, DecidableEq

namespace TokenExpr

/-- Whether the empty text is one of the expression's. -/
def acceptsBlank : TokenExpr → Bool
  | nothing => false
  | blank => true
  | char _ => false
  | seq a b => a.acceptsBlank && b.acceptsBlank
  | either a b => a.acceptsBlank || b.acceptsBlank
  | many _ => true

/-- One expression, then another, kept small. -/
def followedBy (a b : TokenExpr) : TokenExpr :=
  if a = nothing ∨ b = nothing then nothing
  else if a = blank then b
  else seq a b

/-- One expression or another, kept small. -/
def orElse (a b : TokenExpr) : TokenExpr :=
  if a = nothing then b
  else if b = nothing ∨ a = b then a
  else either a b

/-- What is left to be read of an expression after a character. -/
def after (c : Char) : TokenExpr → TokenExpr
  | nothing => nothing
  | blank => nothing
  | char set => if set.contains c then blank else nothing
  | seq a b =>
    let first := (a.after c).followedBy b
    if a.acceptsBlank then first.orElse (b.after c) else first
  | either a b => (a.after c).orElse (b.after c)
  | many a => (a.after c).followedBy (many a)

/-- Whether a whole text is one of the expression's. -/
def accepts (e : TokenExpr) (s : List Char) : Bool :=
  (s.foldl (fun e c => e.after c) e).acceptsBlank

/-! ## Expressions made of others -/

/-- Some expressions, one after another. -/
def sequence : List TokenExpr → TokenExpr
  | [] => blank
  | [a] => a
  | a :: rest => seq a (sequence rest)

/-- One of some expressions. -/
def choice : List TokenExpr → TokenExpr
  | [] => nothing
  | [a] => a
  | a :: rest => either a (choice rest)

/-- An expression or nothing. -/
def optional (a : TokenExpr) : TokenExpr :=
  either a blank

/-- An expression, once or more often. -/
def many1 (a : TokenExpr) : TokenExpr :=
  seq a (many a)

/-- An expression, a number of times. -/
def times (n : Nat) (a : TokenExpr) : TokenExpr :=
  sequence (List.replicate n a)

/-- One of the characters of a text. -/
def oneOf (members : String) : TokenExpr :=
  char (.oneOf members)

/-- A character that is not one of a text's. -/
def noneOf (members : String) : TokenExpr :=
  char (.noneOf members)

/-- A text as it stands. -/
def text (s : String) : TokenExpr :=
  sequence (s.toList.map fun c => oneOf (String.singleton c))

end TokenExpr

/-- What the texts of a token are. -/
inductive TokenShape where
  /-- One text. -/
  | fixed (text : String)
  | described (expr : TokenExpr)
  deriving Repr, DecidableEq

/-- A token of a language. -/
structure Token where
  /-- The name that a message calls it by. -/
  name : String
  shape : TokenShape
  /-- A token does not give way to one of lower priority, however long. -/
  priority : Nat
  /-- Decides between tokens of one priority and length: the higher one is taken. -/
  rank : Nat
  /-- Blanks before the token are not skipped. -/
  immediate : Bool
  /-- The token is a node of its own in a tree, and not only a mark. -/
  named : Bool
  deriving Repr, DecidableEq

namespace Token

/-- The token that is a text as it stands. -/
def ofText (s : String) : Token :=
  ⟨s, .fixed s, 0, 2, false, false⟩

/-- The token that is a text as it stands, under a name of its own. -/
def word (name text : String) : Token :=
  { ofText text with name := name, named := true }

/-- A token with many texts. -/
def ofExpr (name : String) (expr : TokenExpr) : Token :=
  ⟨name, .described expr, 0, 1, false, true⟩

/-- The texts of a token. A line feed stands for a run of them. -/
def expr (t : Token) : TokenExpr :=
  match t.shape with
  | .fixed "\n" => .many1 (.text "\n")
  | .fixed s => .text s
  | .described e => e

/-- The text of a token that a token for names would take for a name. -/
def keyword? (t names : Token) : Option (List Char) :=
  match t.shape with
  | .fixed s => if names.expr.accepts s.toList then some s.toList else none
  | .described _ => none

end Token

end ComponentAudit.Parsing
