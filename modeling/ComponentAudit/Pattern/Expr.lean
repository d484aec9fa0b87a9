/-!
# Patterns as written

A pattern taken apart, with the places that messages point to, and what can be wrong with a pattern. A message shows the
pattern with carets below the places at fault.
-/

namespace ComponentAudit.Pattern

/-- A place in a pattern, counted from one. -/
structure Place where
  line : Nat
  column : Nat
  deriving Repr, DecidableEq, Inhabited

namespace Place

/-- The place of the first character. -/
def start : Place := ⟨1, 1⟩

/-- The place after a character. -/
def next (p : Place) (c : Char) : Place :=
  if c = '\n' then ⟨p.line + 1, 1⟩ else ⟨p.line, p.column + 1⟩

end Place

/-- A stretch of a pattern, from a place to before another one. -/
structure Span where
  first : Place
  last : Place
  deriving Repr, DecidableEq, Inhabited

/-- How deep groups, classes, repetitions and what they are made of may be nested. -/
def nestLimit : Nat := 250

/-- What is wrong with a pattern. -/
inductive Fault where
  | classEscapeInvalid
  | classRangeInvalid
  | classRangeLiteral
  | classUnclosed
  | decimalEmpty
  | decimalInvalid
  | escapeHexEmpty
  | escapeHexInvalid
  | escapeHexInvalidDigit
  | escapeUnexpectedEnd
  | escapeUnrecognized
  | flagDanglingNegation
  | flagDuplicate
  | flagRepeatedNegation
  | flagUnexpectedEnd
  | flagUnrecognized
  | groupNameDuplicate
  | groupNameEmpty
  | groupNameInvalid
  | groupNameUnexpectedEnd
  | groupUnclosed
  | groupUnopened
  | nestedTooDeep
  | repetitionCountInvalid
  | repetitionCountDecimalEmpty
  | repetitionCountUnclosed
  | repetitionMissing
  | boundaryUnclosed
  | boundaryUnrecognized
  | boundaryUnexpectedEnd
  | unicodeClassInvalid
  | unsupportedBackreference
  | unsupportedLookAround
  | unicodeNotAllowed
  | invalidUtf8
  | propertyNotFound
  | propertyValueNotFound
  deriving Repr, DecidableEq

/-- The text of a fault. -/
def Fault.message : Fault → String
  | classEscapeInvalid => "invalid escape sequence found in character class"
  | classRangeInvalid => "invalid character class range, the start must be <= the end"
  | classRangeLiteral => "invalid range boundary, must be a literal"
  | classUnclosed => "unclosed character class"
  | decimalEmpty => "decimal literal empty"
  | decimalInvalid => "decimal literal invalid"
  | escapeHexEmpty => "hexadecimal literal empty"
  | escapeHexInvalid => "hexadecimal literal is not a Unicode scalar value"
  | escapeHexInvalidDigit => "invalid hexadecimal digit"
  | escapeUnexpectedEnd => "incomplete escape sequence, reached end of pattern prematurely"
  | escapeUnrecognized => "unrecognized escape sequence"
  | flagDanglingNegation => "dangling flag negation operator"
  | flagDuplicate => "duplicate flag"
  | flagRepeatedNegation => "flag negation operator repeated"
  | flagUnexpectedEnd => "expected flag but got end of regex"
  | flagUnrecognized => "unrecognized flag"
  | groupNameDuplicate => "duplicate capture group name"
  | groupNameEmpty => "empty capture group name"
  | groupNameInvalid => "invalid capture group character"
  | groupNameUnexpectedEnd => "unclosed capture group name"
  | groupUnclosed => "unclosed group"
  | groupUnopened => "unopened group"
  | nestedTooDeep => s!"exceed the maximum number of nested parentheses/brackets ({nestLimit})"
  | repetitionCountInvalid => "invalid repetition count range, the start must be <= the end"
  | repetitionCountDecimalEmpty => "repetition quantifier expects a valid decimal"
  | repetitionCountUnclosed => "unclosed counted repetition"
  | repetitionMissing => "repetition operator missing expression"
  | boundaryUnclosed => "special word boundary assertion is either unclosed or contains an invalid character"
  | boundaryUnrecognized =>
    "unrecognized special word boundary assertion, valid choices are: start, end, start-half or end-half"
  | boundaryUnexpectedEnd =>
    "found either the beginning of a special word boundary or a bounded repetition on a \\b with an opening brace, " ++
      "but no closing brace"
  | unicodeClassInvalid => "invalid Unicode character class"
  | unsupportedBackreference => "backreferences are not supported"
  | unsupportedLookAround => "look-around, including look-ahead and look-behind, is not supported"
  | unicodeNotAllowed => "Unicode not allowed here"
  | invalidUtf8 => "pattern can match invalid UTF-8"
  | propertyNotFound => "Unicode property not found"
  | propertyValueNotFound => "Unicode property value not found"

/-- A fault at a place of a pattern; some faults have a second place, that of the earlier occurrence. -/
structure PatternError where
  fault : Fault
  span : Span
  earlier : Option Span := none
  deriving Repr, DecidableEq

/-- A flag of a pattern. -/
inductive Flag where
  | caseInsensitive
  | multiLine
  | dotMatchesNewLine
  | swapGreed
  | unicode
  | crlf
  | ignoreBlanks
  deriving Repr, DecidableEq

/-- One sign of a list of flags. -/
inductive FlagItem where
  | negation
  | flag (f : Flag)
  deriving Repr, DecidableEq

/-- What a list of flags says about one: set, cleared, or nothing. -/
def flagState (f : Flag) : List FlagItem → Option Bool
  | [] => none
  | .negation :: rest => if .flag f ∈ rest then some false else none
  | .flag g :: rest => if g = f then some true else flagState f rest

/-- A character of a pattern. -/
structure Literal where
  char : Char
  span : Span
  /-- Whether it is written as two hexadecimal digits, which name a byte where Unicode is off. -/
  isByte : Bool := false
  deriving Repr, DecidableEq

/-- The sets with a letter of their own. -/
inductive ShortClass where
  | digit
  | space
  | word
  deriving Repr, DecidableEq

/-- How the set of a Unicode class is named. -/
inductive ClassName where
  | plain (name : String)
  | valued (name value : String)
  deriving Repr, DecidableEq

/-- How two sets of a bracketed class are joined. -/
inductive SetOperator where
  | intersection
  | difference
  | symmetricDifference
  deriving Repr, DecidableEq

/-- A set of characters as written. -/
inductive ClassExpr where
  | literal (l : Literal)
  | range (low high : Literal)
  | ascii (span : Span) (name : String) (negated : Bool)
  | short (span : Span) (kind : ShortClass) (negated : Bool)
  | unicode (span : Span) (name : ClassName) (negated : Bool)
  | union (span : Span) (items : List ClassExpr)
  | operator (op : SetOperator) (left right : ClassExpr)
  /-- A class in brackets of its own. -/
  | bracketed (span : Span) (negated : Bool) (inner : ClassExpr)
  deriving Repr, Inhabited

/-- Where a set stands. -/
def ClassExpr.span : ClassExpr → Span
  | literal l => l.span
  | range low high => ⟨low.span.first, high.span.last⟩
  | ascii span _ _ | short span _ _ | unicode span _ _ | union span _ | bracketed span _ _ => span
  | operator _ left right => ⟨left.span.first, right.span.last⟩

/-- A condition on the place between two characters. -/
inductive Anchor where
  | startLine
  | endLine
  | startText
  | endText
  | wordBoundary
  | notWordBoundary
  | wordStart
  | wordEnd
  | wordStartHalf
  | wordEndHalf
  deriving Repr, DecidableEq

/-- A pattern as written. -/
inductive Expr where
  | flags (span : Span) (items : List FlagItem)
  | literal (l : Literal)
  | dot (span : Span)
  | anchor (span : Span) (a : Anchor)
  | class (c : ClassExpr)
  | repetition (span : Span) (min : Nat) (max : Option Nat) (greedy : Bool) (inner : Expr)
  | group (span : Span) (items : List FlagItem) (inner : Expr)
  | concat (span : Span) (items : List Expr)
  | alternation (span : Span) (items : List Expr)
  deriving Repr, Inhabited

/-- Where an expression stands. -/
def Expr.span : Expr → Span
  | literal l => l.span
  | «class» c => c.span
  | flags span _ | dot span | anchor span _ | repetition span _ _ _ _ | group span _ _ | concat span _
  | alternation span _ => span

/-! ## Messages -/

namespace PatternError

/-- The lines of a pattern; a carriage return before a line feed belongs to neither line. -/
def patternLines (pattern : List Char) : List (List Char) :=
  let rec go : List Char → List (List Char)
    | [] => []
    | '\n' :: rest => [] :: go rest
    | '\r' :: '\n' :: rest => [] :: go rest
    | c :: rest =>
      match rest, go rest with
      | _ :: _, line :: more => (c :: line) :: more
      | _, _ => [[c]]
  go pattern

/-- The number of lines; a line feed at the end opens one more. -/
def lineCount (pattern : List Char) : Nat :=
  pattern.count '\n' + if pattern.isEmpty then 0 else 1

/-- Blanks and carets below a line, from a column on. -/
def carets (column : Nat) : List Span → List Char
  | [] => []
  | span :: rest =>
    let blanks := span.first.column - column
    let width := max 1 (span.last.column - span.first.column)
    List.replicate blanks ' ' ++ List.replicate width '^' ++ carets (column + blanks + width) rest

/-- A pattern line, with carets below the places of the spans that lie in it. -/
def notedLine (width number : Nat) (line : List Char) (spans : List Span) : List (List Char) :=
  let margin := if width = 0 then "    ".toList else
    let digits := (toString number).toList
    List.replicate (width - digits.length) ' ' ++ digits ++ ": ".toList
  let below := spans.filter fun span => span.first.line = number ∧ span.last.line = number
  (margin ++ line) ::
    if below.isEmpty then [] else [List.replicate margin.length ' ' ++ carets 1 below]

/-- The spans of an error, in the order of the pattern. -/
def spans (e : PatternError) : List Span :=
  e.earlier.toList ++ [e.span]

/-- The text of an error in a pattern. -/
def message (e : PatternError) (pattern : List Char) : String :=
  let count := lineCount pattern
  let width := if count ≤ 1 then 0 else (toString count).length
  let noted := ((patternLines pattern).zipIdx 1).flatMap fun (line, number) => notedLine width number line e.spans
  let divider := List.replicate 79 '~'
  let long := e.spans.filter fun span => span.first.line ≠ span.last.line
  let notes := long.map fun span =>
    s!"on line {span.first.line} (column {span.first.column}) through line {span.last.line} " ++
      s!"(column {span.last.column - 1})"
  let body := if pattern.contains '\n' then [divider] ++ noted ++ [divider] ++ notes.map String.toList else noted
  "regex parse error:\n" ++ String.join (body.map fun line => String.ofList line ++ "\n") ++ "error: " ++ e.fault.message

end PatternError

end ComponentAudit.Pattern
