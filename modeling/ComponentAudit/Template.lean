import ComponentAudit.Text.Blank
import ComponentAudit.Text.Letters
import ComponentAudit.Text.Position

/-!
# The outline of templates

Templates have no grammar here. Two checks look at their outline: braces have to balance, whatever they stand in, and
where lines open with the word `templ`, one of them at least has to open a well-formed component declaration.
-/

namespace ComponentAudit.Template

open Text

/-- What is wrong with the outline of a template. -/
inductive OutlineError where
  /-- A closing brace without a partner. -/
  | unbalancedClosing (position : Position)
  /-- Braces left open, and the outermost of them. -/
  | unbalancedOpening (unclosed : Nat) (position : Position)
  /-- No declaration is well formed; the line of the first one. -/
  | invalidDeclaration (line : Nat)
  deriving Repr, DecidableEq

namespace OutlineError

/-- The position that the error is reported at. -/
def position : OutlineError → Position
  | unbalancedClosing p => p
  | unbalancedOpening _ p => p
  | invalidDeclaration line => ⟨line, 1⟩

/-- The text of the error. -/
def message : OutlineError → String
  | unbalancedClosing p => s!"unbalanced closing brace at {p.line}:{p.column}"
  | unbalancedOpening unclosed p =>
    s!"unbalanced opening brace: {unclosed} unclosed, first opened at {p.line}:{p.column}"
  | invalidDeclaration line => s!"invalid component declaration at line {line}"

end OutlineError

/-- Reads braces from a position on, with the positions of those that are open, innermost first. -/
def scanBraces : Position → List Position → List Char → Except OutlineError Unit
  | _, opened, [] =>
    match opened.getLast? with
    | none => .ok ()
    | some outermost => .error (.unbalancedOpening opened.length outermost)
  | p, opened, c :: rest =>
    if c = '{' then scanBraces (p.next c) (p :: opened) rest
    else if c = '}' then
      match opened with
      | [] => .error (.unbalancedClosing p)
      | _ :: outer => scanBraces (p.next c) outer rest
    else scanBraces (p.next c) opened rest

/-- Every closing brace has to have a partner before it, and every opening one a partner after it. -/
def checkBraces (s : List Char) : Except OutlineError Unit :=
  scanBraces .start [] s

/-- The word that opens a declaration. -/
def keyword : List Char := "templ".toList

/-- What follows the keyword at the start of a text, white space before it apart; white space has to follow. -/
def afterKeyword? (s : List Char) : Option (List Char) :=
  let s := trimStart s
  if keyword.isPrefixOf s then
    match s.drop keyword.length with
    | c :: rest => if isBlank c then some (c :: rest) else none
    | [] => none
  else none

/-- The first line of a text with its line feed. -/
def firstLine (s : List Char) : List Char :=
  s.takeWhile (· ≠ '\n') ++ (s.dropWhile (· ≠ '\n')).take 1

/-- Whether the first line of a text opens with the keyword. -/
def isMarker (s : List Char) : Bool :=
  (afterKeyword? (firstLine s)).isSome

/-- What follows the first closing parenthesis. -/
def afterClosing? (s : List Char) : Option (List Char) :=
  match s.dropWhile (· ≠ ')') with
  | _ :: rest => some rest
  | [] => none

/-- What follows a receiver in parentheses, if there is one; white space around it apart. -/
def afterReceiver? (s : List Char) : Option (List Char) :=
  match trimStart s with
  | '(' :: rest => (afterClosing? rest).map trimStart
  | s => some s

/-- A character that may open an identifier. -/
def isIdentifierStart (c : Char) : Bool :=
  isAlphabetic c || c == '_'

/-- A character that may stand in an identifier. -/
def isIdentifierPart (c : Char) : Bool :=
  isAlphanumeric c || c == '_'

/-- What follows an identifier. -/
def afterIdentifier? : List Char → Option (List Char)
  | [] => none
  | c :: rest => if isIdentifierStart c then some ((c :: rest).dropWhile isIdentifierPart) else none

/-- What follows a parameter list in parentheses. -/
def afterParameters? (s : List Char) : Option (List Char) :=
  match trimStart s with
  | '(' :: rest => afterClosing? rest
  | _ => none

/-- Whether a text starts with a well-formed declaration: the keyword, perhaps a receiver, a name, a parameter list and an
opening brace. It may run over several lines. -/
def opensDeclaration (s : List Char) : Bool :=
  match ((afterKeyword? s).bind afterReceiver?).bind afterIdentifier? |>.bind afterParameters? with
  | some rest => (trimStart rest).head? == some '{'
  | none => false

/-- The text from the start of each of its lines on, with the line's number. -/
def fromLines (number : Nat) (s : List Char) : List (Nat × List Char) :=
  (number, s) :: go number s
where
  /-- The lines after the one that the text starts in. -/
  go : Nat → List Char → List (Nat × List Char)
    | _, [] => []
    | n, c :: rest => if c = '\n' then (n + 1, rest) :: go (n + 1) rest else go n rest

/-- The lines that open with the keyword, each with the text from its start on. -/
def markers (s : List Char) : List (Nat × List Char) :=
  (fromLines 1 s).filter fun entry => isMarker entry.2

/-- Where there are declarations, one has to be well formed. -/
def checkDeclarations (s : List Char) : Except OutlineError Unit :=
  match markers s with
  | [] => .ok ()
  | first :: others =>
    if (first :: others).any fun entry => opensDeclaration entry.2 then .ok ()
    else .error (.invalidDeclaration first.1)

/-- Both checks; the first error counts. -/
def check (s : List Char) : Except OutlineError Unit := do
  checkBraces s
  checkDeclarations s

end ComponentAudit.Template
