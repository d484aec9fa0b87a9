import ComponentAudit.Parsing.Tree

/-!
# Syntax trees

What a text looks like once it has been parsed: nodes with a kind and a place, and nodes for what is wrong with it. The
first of those in the order of the text is what a report is about.
-/

namespace ComponentAudit

open Parsing

/-- What a node of a syntax tree stands for. -/
inductive NodeStatus where
  | sound
  /-- Text that could not be read. -/
  | error
  /-- Something that is not in the text, and should be. -/
  | missing
  deriving Repr, DecidableEq

/-- A node of a syntax tree. -/
structure SyntaxNode where
  kind : String
  /-- The node has a meaning of its own, unlike a bracket or a comma. -/
  named : Bool
  status : NodeStatus
  start : Place
  stop : Place

/-- The text of a node. -/
def SyntaxNode.text (n : SyntaxNode) : List Char :=
  n.start.textTo n.stop

/-- Whether a node stands for something wrong. -/
def SyntaxNode.isFault (n : SyntaxNode) : Bool :=
  n.status ≠ .sound

/-- A syntax tree. -/
inductive SyntaxTree where
  | node (top : SyntaxNode) (children : List SyntaxTree)

namespace SyntaxTree

/-- The node on top. -/
def top : SyntaxTree → SyntaxNode
  | node top _ => top

/-- The trees below the node on top. -/
def children : SyntaxTree → List SyntaxTree
  | node _ children => children

mutual

/-- The nodes of a tree, each before those below it. -/
def preorder : SyntaxTree → List SyntaxNode
  | node top children => top :: preorderAll children

/-- The nodes of some trees, one tree after another. -/
def preorderAll : List SyntaxTree → List SyntaxNode
  | [] => []
  | t :: rest => t.preorder ++ preorderAll rest

end

mutual

/-- Whether something is wrong at a node or below it. -/
def hasError : SyntaxTree → Bool
  | node top children => top.isFault || anyHasError children

/-- Whether something is wrong in one of some trees. -/
def anyHasError : List SyntaxTree → Bool
  | [] => false
  | t :: rest => t.hasError || anyHasError rest

end

mutual

/-- The first node that stands for something wrong. Trees without one are not gone through. -/
def firstError? : SyntaxTree → Option SyntaxNode
  | node top children =>
    if top.isFault then some top
    else if (node top children).hasError then firstErrorAmong? children
    else none

/-- The first node of some trees that stands for something wrong. -/
def firstErrorAmong? : List SyntaxTree → Option SyntaxNode
  | [] => none
  | t :: rest => match t.firstError? with
    | some n => some n
    | none => firstErrorAmong? rest

end

/-- The node of a label. -/
def ofLabel (g : PlainGrammar) (label : NodeLabel) : SyntaxNode where
  kind := match label.kind with
    | .token i => label.name.getD ((g.tokens[i]?.map (·.name)).getD "")
    | .rule i => (g.rules[i]?.map (·.name)).getD ""
    | .endOfText | .passed => ""
    | .error => "ERROR"
  named := match label.kind with
    | .token i => label.name.isSome || g.tokens[i]?.any (·.named)
    | .rule _ | .error => true
    | .endOfText | .passed => false
  status := if label.missing then .missing else if label.kind = .error then .error else .sound
  start := label.start
  stop := label.stop

mutual

/-- The syntax trees of a parser's tree: the parts of a tree that does not show stand in its place. -/
def ofTree (g : PlainGrammar) : Parsing.Tree → List SyntaxTree
  | .node label parts =>
    let children := ofTrees g parts
    if (Parsing.Tree.node label parts).shows g then [node (ofLabel g label) children] else children

/-- The syntax trees of some trees, one after another. -/
def ofTrees (g : PlainGrammar) : List Parsing.Tree → List SyntaxTree
  | [] => []
  | t :: rest => ofTree g t ++ ofTrees g rest

end

end SyntaxTree

end ComponentAudit
