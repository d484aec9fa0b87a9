import ComponentAudit.FileKind
import ComponentAudit.Template

/-!
# The syntax check

Source files are read by a parser, which is given; templates are checked for their outline. A file that is not UTF-8 fails
the check whatever its kind.
-/

namespace ComponentAudit

open Text

/-- What a parser has to say about the first place that it does not understand; columns count bytes. -/
structure ParseError where
  line : Nat
  column : Nat
  message : String
  deriving Repr, DecidableEq

/-- The text of a parser's error. -/
def ParseError.text (e : ParseError) : String :=
  s!"{e.line}:{e.column}: {e.message}"

/-- A parser for source files. -/
structure SourceParser where
  /-- The name of the language. -/
  language : String
  parse : List Char → Except ParseError Unit

namespace SourceParser

/-- The parser that takes every text. -/
def acceptAll : SourceParser := ⟨"stub", fun _ => .ok ()⟩

/-- The parser that refuses every text with one error. -/
def refuseAll (e : ParseError) : SourceParser := ⟨"stub", fun _ => .error e⟩

end SourceParser

/-- Why a file fails its syntax check. -/
inductive SyntaxFailure where
  /-- The parser refused a source file. -/
  | parse (error : ParseError)
  /-- The outline of a template is wrong. -/
  | outline (error : Template.OutlineError)
  /-- The file is not UTF-8; the place of the first bad byte, its column counted in bytes. -/
  | encoding (line column : Nat)
  deriving Repr, DecidableEq

namespace SyntaxFailure

/-- The position that a failure is reported at: the start of the file unless the check knows better. -/
def position : SyntaxFailure → Position
  | parse _ => .start
  | outline error => error.position
  | encoding _ _ => .start

/-- The text of a failure. -/
def message : SyntaxFailure → String
  | parse error => error.text
  | outline error => error.message
  | encoding line column => s!"{line}:{column}: illegal UTF-8 encoding"

/-- The failure of bytes of which the first `valid` are UTF-8. -/
def ofBytes (bytes : List UInt8) (valid : Nat) : SyntaxFailure :=
  let before := bytes.take valid
  .encoding (before.count 10 + 1) ((before.reverse.takeWhile (· ≠ 10)).length + 1)

end SyntaxFailure

/-- Checks the syntax of a file of some kind. -/
def checkSyntax (parser : SourceParser) (kind : FileKind) (content : List Char) : Except SyntaxFailure Unit :=
  match kind with
  | .go => (parser.parse content).mapError .parse
  | .templ => (Template.check content).mapError .outline

end ComponentAudit
