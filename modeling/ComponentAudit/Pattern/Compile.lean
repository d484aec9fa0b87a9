import ComponentAudit.Pattern.Depth
import ComponentAudit.Pattern.Reader
import ComponentAudit.Pattern.Regex

/-!
# From pattern to regular expression

What a pattern means depends on flags, which a pattern may set for the rest of the group that they stand in. Text is
Unicode unless a flag says otherwise; without Unicode a pattern may name ASCII only, since matches have to be text.
-/

namespace ComponentAudit.Pattern

/-- The flags in force. -/
structure Mode where
  caseInsensitive : Bool := false
  multiLine : Bool := false
  dotMatchesNewLine : Bool := false
  swapGreed : Bool := false
  unicode : Bool := true
  crlf : Bool := false
  deriving Repr, DecidableEq

namespace Mode

/-- The flags after a list of flags. -/
def apply (m : Mode) (items : List FlagItem) : Mode :=
  { caseInsensitive := (flagState .caseInsensitive items).getD m.caseInsensitive
    multiLine := (flagState .multiLine items).getD m.multiLine
    dotMatchesNewLine := (flagState .dotMatchesNewLine items).getD m.dotMatchesNewLine
    swapGreed := (flagState .swapGreed items).getD m.swapGreed
    unicode := (flagState .unicode items).getD m.unicode
    crlf := (flagState .crlf items).getD m.crlf }

/-- The ASCII characters. -/
def ascii : Charset := .range '\x00' '\x7f'

/-- A set with its case folded, if case does not count. -/
def fold (m : Mode) (s : Charset) : Charset :=
  if m.caseInsensitive then (if m.unicode then .folded s else .inter (.folded s) ascii) else s

/-- A set or its complement; without Unicode a complement would hold what is no text. -/
def negate (m : Mode) (span : Span) (negated : Bool) (s : Charset) : Except PatternError Charset :=
  if negated then
    if m.unicode then .ok (.complement s) else .error { fault := .invalidUtf8, span }
  else .ok s

/-- The character of a literal. -/
def literal (m : Mode) (l : Literal) : Except PatternError Char :=
  if !m.unicode ∧ l.isByte ∧ 0x7F < l.char.toNat then .error { fault := .invalidUtf8, span := l.span }
  else .ok l.char

/-- The character of a literal within brackets. -/
def classLiteral (m : Mode) (l : Literal) : Except PatternError Char := do
  let c ← m.literal l
  if !m.unicode ∧ 0x7F < c.toNat then throw { fault := .unicodeNotAllowed, span := l.span }
  return c

/-- The set with a letter of its own. -/
def shortClass (m : Mode) (span : Span) (kind : ShortClass) (negated : Bool) : Except PatternError Charset :=
  let set := match kind, m.unicode with
    | .digit, true => .digit
    | .space, true => .blank
    | .word, true => .word
    | .digit, false => .range '0' '9'
    | .space, false => .union (.range '\t' '\r') (.single ' ')
    | .word, false => .inter .word ascii
  m.negate span negated set

/-- The set that a name stands for. Some classes of Unicode have no table here, and their names are refused like unknown ones:
those by age, by the breaks of graphemes, words and sentences, and the properties that `Charset.properties` does not list. -/
def namedClass (span : Span) (name : ClassName) : Except PatternError Charset :=
  let found (set : Option Charset) (fault : Fault) : Except PatternError Charset :=
    match set with
    | some s => .ok s
    | none => .error { fault, span }
  match name with
  | .plain name => found (Charset.named? name) .propertyNotFound
  | .valued name value =>
    let value := Charset.looseName value
    let name := Charset.looseName name
    if name = "gc" ∨ name = "generalcategory" then found (Charset.category? value) .propertyValueNotFound
    else if name ∈ ["sc", "script", "scx", "scriptextensions"] then found (Charset.script? value) .propertyValueNotFound
    else .error { fault := .propertyNotFound, span }

/-- The set of a Unicode class. -/
def unicodeClass (m : Mode) (span : Span) (name : ClassName) (negated : Bool) : Except PatternError Charset := do
  if !m.unicode then throw { fault := .unicodeNotAllowed, span }
  return .complementIf negated (m.fold (← namedClass span name))

/-- The condition of an anchor. -/
def look (m : Mode) : Anchor → Look
  | .startLine => if m.multiLine then (if m.crlf then .crlfStart else .lineStart) else .textStart
  | .endLine => if m.multiLine then (if m.crlf then .crlfEnd else .lineEnd) else .textEnd
  | .startText => .textStart
  | .endText => .textEnd
  | .wordBoundary => .boundary m.unicode
  | .notWordBoundary => .notBoundary m.unicode
  | .wordStart => .wordStart m.unicode
  | .wordEnd => .wordEnd m.unicode
  | .wordStartHalf => .wordStartHalf m.unicode
  | .wordEndHalf => .wordEndHalf m.unicode

/-- The set of a dot. -/
def dot (m : Mode) (span : Span) : Except PatternError Charset :=
  if !m.unicode then .error { fault := .invalidUtf8, span }
  else if m.dotMatchesNewLine then .ok .all
  else if m.crlf then .ok (.complement (.union (.single '\n') (.single '\r')))
  else .ok (.complement (.single '\n'))

/-- The set of a character, in all its cases if case does not count. -/
def char (m : Mode) (c : Char) : Charset :=
  if m.caseInsensitive then
    let variants := (Text.caseVariants c).filter fun d => m.unicode || (d.toNat < 128 && c.toNat < 128) || d == c
    .unions (variants.map .single)
  else .single c

/-- The set of two joined sets. -/
def join (op : SetOperator) (a b : Charset) : Charset :=
  match op with
  | .intersection => .inter a b
  | .difference => .diff a b
  | .symmetricDifference => .oneOf a b

end Mode

namespace ClassExpr

mutual

/-- The set of a class under some flags. -/
def compile (m : Mode) : ClassExpr → Except PatternError Charset
  | .literal l => return .single (← m.classLiteral l)
  | .range low high => return .range (← m.classLiteral low) (← m.classLiteral high)
  | .ascii span name negated => m.negate span negated (m.fold ((Charset.ascii? name).getD .none))
  | .short span kind negated => m.shortClass span kind negated
  | .unicode span name negated => m.unicodeClass span name negated
  | .union _ items => return .unions (← compileAll m items)
  | .operator op left right => do
    let left ← compile m left
    let right ← compile m right
    return Mode.join op (m.fold left) (m.fold right)
  | .bracketed span negated inner => do m.negate span negated (m.fold (← compile m inner))

/-- The sets of some classes. -/
def compileAll (m : Mode) : List ClassExpr → Except PatternError (List Charset)
  | [] => return []
  | item :: rest => do
    let set ← compile m item
    return set :: (← compileAll m rest)

end

end ClassExpr

namespace Expr

mutual

/-- The regular expression of a pattern under some flags, and the flags after it. -/
def compile (m : Mode) : Expr → Except PatternError (Regex × Mode)
  | .flags _ items => return (.empty, m.apply items)
  | .literal l => return (.set (m.char (← m.literal l)), m)
  | .dot span => return (.set (← m.dot span), m)
  | .anchor _ a => return (.look (m.look a), m)
  | .class c => return (.set (← c.compile m), m)
  | .repetition _ min max greedy inner => do
    let (r, after) ← compile m inner
    return (.repetition r min max (greedy != after.swapGreed), after)
  | .group _ items inner => do
    let (r, _) ← compile (m.apply items) inner
    return (r, m)
  | .concat _ items => do
    let (rs, after) ← compileAll m items
    return (.sequence rs, after)
  | .alternation _ items => do
    let (rs, after) ← compileAll m items
    return (.choice rs, after)

/-- The regular expressions of some patterns, each under the flags that the one before it leaves. -/
def compileAll (m : Mode) : List Expr → Except PatternError (List Regex × Mode)
  | [] => return ([], m)
  | item :: rest => do
    let (r, after) ← compile m item
    let (rs, after) ← compileAll after rest
    return (r :: rs, after)

end

end Expr

/-- The regular expression of a pattern. -/
def Regex.ofPattern (pattern : List Char) : Except PatternError Regex := do
  let e ← Expr.ofText pattern
  match e.below? nestLimit with
  | some span => throw { fault := .nestedTooDeep, span }
  | none => return (← e.compile {}).1

end ComponentAudit.Pattern
