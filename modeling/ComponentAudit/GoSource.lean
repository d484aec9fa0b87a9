import ComponentAudit.GoGrammar
import ComponentAudit.Parsing.Parser
import ComponentAudit.Syntax
import ComponentAudit.SyntaxTree

/-!
# Go source files

The parser for Go source files. A text is refused for the first thing in it that cannot be read, and else for the first
thing at its top level that is out of place: a package clause comes first, then the imports, then the declarations.
-/

namespace ComponentAudit.GoSource

open Parsing Text

/-! ## The top level -/

/-- What stands at the top level of a source file. -/
inductive TopLevel where
  | comment
  | packageClause
  | importDeclaration
  /-- A function, a method, constants, variables or types. -/
  | declaration
  | statement
  deriving Repr, DecidableEq

/-- What a node at the top level is. -/
def TopLevel.ofKind (kind : String) : TopLevel :=
  if kind = "comment" then .comment
  else if kind = "package_clause" then .packageClause
  else if kind = "import_declaration" then .importDeclaration
  else if ["function_declaration", "method_declaration", "const_declaration", "var_declaration",
    "type_declaration"].contains kind then .declaration
  else .statement

/-- How far the top level has been read. -/
inductive Stage where
  /-- Nothing but comments so far. -/
  | opening
  /-- The package clause, and maybe imports. -/
  | imports
  /-- Some declaration that is no import. -/
  | declarations
  deriving Repr, DecidableEq

/-- Why something is out of place. -/
inductive Misplaced where
  | beforePackage
  | importAfterDeclaration
  | noDeclaration
  deriving Repr, DecidableEq

/-- The text of a complaint about something, of which a line is shown. -/
def Misplaced.message (found : String) : Misplaced → String
  | beforePackage => s!"expected 'package', found '{found}'"
  | importAfterDeclaration => "imports must appear before other declarations"
  | noDeclaration => s!"non-declaration statement outside function body: '{found}'"

/-- Reads one thing more at the top level. -/
def Stage.next : Stage → TopLevel → Except Misplaced Stage
  | stage, .comment => .ok stage
  | opening, .packageClause => .ok imports
  | opening, _ => .error .beforePackage
  | imports, .importDeclaration => .ok imports
  | declarations, .importDeclaration => .error .importAfterDeclaration
  | _, .declaration => .ok declarations
  | _, .packageClause | _, .statement => .error .noDeclaration

/-- The number of the first thing that is out of place, and why; or how far the top level has been read in the end. -/
def readTopLevel (stage : Stage) : List TopLevel → Except (Nat × Misplaced) Stage
  | [] => .ok stage
  | item :: rest => match stage.next item with
    | .error fault => .error (0, fault)
    | .ok stage => (readTopLevel stage rest).mapError fun (n, fault) => (n + 1, fault)

/-! ## Complaints -/

/-- How many characters of a text are shown. -/
def snippetLength : Nat := 40

/-- The start of a text's first line. -/
def snippet (text : List Char) : String :=
  String.ofList ((trim (text.takeWhile (· ≠ '\n'))).take snippetLength)

/-- A complaint at a node. -/
def complaintAt (n : SyntaxNode) (message : String) : ParseError :=
  ⟨n.start.row + 1, n.start.column + 1, message⟩

/-- The complaint about a node that stands for something wrong. -/
def complaint (n : SyntaxNode) : ParseError :=
  complaintAt n <| match n.status with
    | .missing => s!"expected '{n.kind}'"
    | .error | .sound =>
      let found := snippet n.text
      if found = "" then "unexpected end of input" else s!"unexpected '{found}'"

/-- The complaint about a text without a package clause. -/
def noPackage : ParseError :=
  ⟨1, 1, "expected 'package', found 'EOF'"⟩

/-- Checks the order of what stands at the top level of a tree. -/
def checkTopLevel (root : SyntaxTree) : Except ParseError Unit :=
  let nodes := (root.children.map SyntaxTree.top).filter (·.named)
  match readTopLevel .opening (nodes.map fun n => .ofKind n.kind) with
  | .ok .opening => .error noPackage
  | .ok _ => .ok ()
  | .error (i, fault) => match nodes[i]? with
    | some n => .error (complaintAt n (fault.message (snippet n.text)))
    | none => .ok ()

/-- Checks a syntax tree. -/
def checkTree (root : SyntaxTree) : Except ParseError Unit :=
  match root.firstError? with
  | some n => .error (complaint n)
  | none => checkTopLevel root

/-! ## The parser -/

/-- The number of states that the grammar may have. -/
def stateLimit : Nat := 100000

/-- What the parser knows of the grammar. -/
def scanner : Scanner :=
  .ofAutomaton (.ofGrammar GoGrammar.grammar.toPlain stateLimit)

/-- The syntax tree of a text. -/
def tree? (text : List Char) : Option SyntaxTree :=
  (scanner.parse text).bind fun t => (SyntaxTree.ofTree scanner.automaton.grammar t).head?

/-- The parser for Go source files. -/
def parser : SourceParser where
  language := "go"
  parse text := match tree? text with
    | some root => checkTree root
    | none => .error ⟨1, 1, "parser produced no syntax tree"⟩

end ComponentAudit.GoSource
