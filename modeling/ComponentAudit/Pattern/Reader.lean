import ComponentAudit.Pattern.Charset
import ComponentAudit.Pattern.Expr

/-!
# Reading patterns

The grammar of patterns. Reading stops at the first fault. Every loop over a pattern is bounded by its length, since each
round takes at least one character.
-/

namespace ComponentAudit.Pattern

open Text

/-- Where a reader stands in a pattern. -/
structure Stand where
  rest : List Char
  place : Place
  /-- Whether blanks and comments in the pattern mean nothing. -/
  ignoreBlanks : Bool
  /-- The names of groups so far. -/
  names : List (List Char × Span)

/-- A step of reading. -/
abbrev Reader := StateT Stand (Except PatternError)

namespace Reader

/-- Ends with a fault. -/
def fail {α : Type} (span : Span) (fault : Fault) : Reader α :=
  throw { fault, span }

/-- The next character. -/
def peek : Reader (Option Char) := do
  return (← get).rest.head?

/-- Where the reader stands. -/
def here : Reader Place := do
  return (← get).place

/-- The stretch of no characters where the reader stands. -/
def hereSpan : Reader Span := do
  return ⟨← here, ← here⟩

/-- The stretch of the next character. -/
def charSpan : Reader Span := do
  let s ← get
  match s.rest with
  | c :: _ => return ⟨s.place, s.place.next c⟩
  | [] => return ⟨s.place, s.place⟩

/-- The stretch from a place to where the reader stands. -/
def since (first : Place) : Reader Span := do
  return ⟨first, ← here⟩

/-- Passes over the next character; says whether there is one after it. -/
def advance : Reader Bool := do
  let s ← get
  match s.rest with
  | [] => return false
  | c :: rest =>
    set { s with rest, place := s.place.next c }
    return !rest.isEmpty

/-- The place after some characters. -/
def placeAfter (p : Place) (cs : List Char) : Place :=
  cs.foldl Place.next p

/-- Passes over a text if it stands next. -/
def take? (text : List Char) : Reader Bool := do
  let s ← get
  if text.isPrefixOf s.rest then
    set { s with rest := s.rest.drop text.length, place := placeAfter s.place text }
    return true
  else return false

/-- What is left of a text after its blanks and comments. -/
def dropBlanks : Nat → List Char → List Char
  | 0, s => s
  | _ + 1, [] => []
  | n + 1, c :: rest =>
    if isBlank c then dropBlanks n rest
    else if c = '#' then dropBlanks n (rest.dropWhile (· ≠ '\n')).tail
    else c :: rest

/-- Passes over blanks and comments where they mean nothing. -/
def skipBlanks : Reader Unit := do
  let s ← get
  if s.ignoreBlanks then
    let rest := dropBlanks s.rest.length s.rest
    set { s with rest, place := placeAfter s.place (s.rest.take (s.rest.length - rest.length)) }

/-- Passes over the next character and the blanks after it; says whether something follows. -/
def advanceBlanks : Reader Bool := do
  if ← advance then
    skipBlanks
    return (← peek).isSome
  else return false

/-- The character after the next one. -/
def peekSecond : Reader (Option Char) := do
  return (← get).rest.tail.head?

/-- The character after the next one, blanks and comments apart where they mean nothing. -/
def peekSecondBlanks : Reader (Option Char) := do
  let s ← get
  let rest := s.rest.tail
  return (if s.ignoreBlanks then dropBlanks rest.length rest else rest).head?

/-- A hexadecimal digit. -/
def isHex (c : Char) : Bool :=
  c.isDigit || ('a' ≤ c && c ≤ 'f') || ('A' ≤ c && c ≤ 'F')

/-- The character of a hexadecimal number, if it is one. -/
def hexChar? (digits : List Char) : Option Char :=
  let n := hexNumber digits
  if n < 0xD800 ∨ (0xDFFF < n ∧ n < 0x110000) then some (Char.ofNat n) else none

/-- The digits of a hexadecimal number of fixed length; the reader stands on the first one. -/
def fixedHex : Nat → List Char → Reader (List Char)
  | 0, digits => return digits.reverse
  | n + 1, digits => do
    if !digits.isEmpty then
      if !(← advanceBlanks) then fail (← hereSpan) .escapeUnexpectedEnd
    match ← peek with
    | some c => if isHex c then fixedHex n (c :: digits) else fail (← charSpan) .escapeHexInvalidDigit
    | none => fail (← hereSpan) .escapeUnexpectedEnd

/-- The digits of a hexadecimal number in braces; the reader stands before the first one. -/
def bracedHex (brace : Place) : Nat → List Char → Reader (List Char)
  | 0, digits => return digits.reverse
  | n + 1, digits => do
    if ← advanceBlanks then
      match ← peek with
      | some c =>
        if c = '}' then return digits.reverse
        else if isHex c then bracedHex brace n (c :: digits)
        else fail (← charSpan) .escapeHexInvalidDigit
      | none => fail (← since brace) .escapeUnexpectedEnd
    else fail (← since brace) .escapeUnexpectedEnd

/-- A character by its number, after the letter that says how it is written. -/
def hexLiteral (first : Place) (letter : Char) : Reader Literal := do
  if !(← advanceBlanks) then fail (← hereSpan) .escapeUnexpectedEnd
  let brace ← here
  if (← peek) = some '{' then
    let inner := brace.next '{'
    let digits ← bracedHex brace ((← get).rest.length + 1) []
    let last ← here
    let _ ← advanceBlanks
    if digits.isEmpty then fail (← since brace) .escapeHexEmpty
    match hexChar? digits with
    | some char => return { char, span := ← since first }
    | none => fail ⟨inner, last⟩ .escapeHexInvalid
  else
    let digits ← fixedHex (if letter = 'x' then 2 else if letter = 'u' then 4 else 8) []
    let _ ← advanceBlanks
    match hexChar? digits with
    | some char => return { char, span := ← since first, isByte := letter = 'x' }
    | none => fail (← since brace) .escapeHexInvalid

/-- The name of a class in braces; the reader stands before its first character. -/
def bracedName : Nat → List Char → Reader (List Char)
  | 0, name => return name.reverse
  | n + 1, name => do
    if ← advanceBlanks then
      match ← peek with
      | some '}' => return name.reverse
      | some c => bracedName n (c :: name)
      | none => fail (← hereSpan) .escapeUnexpectedEnd
    else fail (← hereSpan) .escapeUnexpectedEnd

/-- The two sides of the first occurrence of a text. -/
def cutAt? (mark : List Char) : List Char → Option (List Char × List Char)
  | [] => none
  | c :: rest =>
    if mark.isPrefixOf (c :: rest) then some ([], (c :: rest).drop mark.length)
    else (cutAt? mark rest).map fun (before, after) => (c :: before, after)

/-- The name of a class, and whether its value is to differ. -/
def className (name : List Char) : ClassName × Bool :=
  let valued (cut : List Char × List Char) : ClassName := .valued (String.ofList cut.1) (String.ofList cut.2)
  match cutAt? ['!', '='] name with
  | some cut => (valued cut, true)
  | none => match cutAt? [':'] name with
    | some cut => (valued cut, false)
    | none => match cutAt? ['='] name with
      | some cut => (valued cut, false)
      | none => (.plain (String.ofList name), false)

/-- A Unicode class, after its letter. -/
def unicodeClass (first : Place) (negated : Bool) : Reader ClassExpr := do
  if !(← advanceBlanks) then fail (← hereSpan) .escapeUnexpectedEnd
  match ← peek with
  | some '{' =>
    let name ← bracedName ((← get).rest.length + 1) []
    let _ ← advance
    let (name, differs) := className name
    return .unicode (← since first) name (negated != differs)
  | some '\\' => fail (← charSpan) .unicodeClassInvalid
  | some c =>
    let _ ← advanceBlanks
    return .unicode (← since first) (.plain (String.singleton c)) negated
  | none => fail (← hereSpan) .escapeUnexpectedEnd

/-- A character with a meaning of its own, which an escape takes away. -/
def isMeta (c : Char) : Bool :=
  "\\.+*?()|[]\x7b\x7d^$#&-~".toList.contains c

/-- A character that an escape leaves as it is. -/
def isEscapable (c : Char) : Bool :=
  isMeta c || (c.toNat < 128 && !c.isAlphanum && c != '<' && c != '>')

/-- What an escape, a dot or a character of a pattern stands for. -/
inductive Part where
  | literal (l : Literal)
  | dot (span : Span)
  | anchor (span : Span) (a : Anchor)
  | class (span : Span) (c : ClassExpr)

/-- The special boundary of a name. -/
def boundary? (name : List Char) : Option Anchor :=
  [("start".toList, Anchor.wordStart), ("end".toList, .wordEnd), ("start-half".toList, .wordStartHalf),
    ("end-half".toList, .wordEndHalf)].lookup name

/-- A character of the name of a special boundary. -/
def isBoundaryChar (c : Char) : Bool :=
  c.isAlpha || c == '-'

/-- The characters of the name of a special boundary. -/
def boundaryName : Nat → List Char → Reader (List Char)
  | 0, name => return name.reverse
  | n + 1, name => do
    match ← peek with
    | some c =>
      if isBoundaryChar c then
        let _ ← advanceBlanks
        boundaryName n (c :: name)
      else return name.reverse
    | none => return name.reverse

/-- The special boundary in braces after a boundary; a brace that opens a count is left alone. -/
def specialBoundary (first : Place) : Reader (Option Anchor) := do
  let before ← get
  let brace ← here
  if !(← advanceBlanks) then fail (← since first) .boundaryUnexpectedEnd
  let inner ← here
  match ← peek with
  | some c =>
    if !isBoundaryChar c then
      set before
      return none
    else
      let name ← boundaryName (← get).rest.length []
      if (← peek) ≠ some '}' then fail (← since brace) .boundaryUnclosed
      let last ← here
      let _ ← advance
      match boundary? name with
      | some a => return some a
      | none => fail ⟨inner, last⟩ .boundaryUnrecognized
  | none => fail (← since first) .boundaryUnexpectedEnd

/-- What an escape stands for; the reader stands on the backslash. -/
def escape : Reader Part := do
  let first ← here
  if !(← advance) then fail (← since first) .escapeUnexpectedEnd
  let some c ← peek | fail (← since first) .escapeUnexpectedEnd
  let short (kind : ShortClass) (negated : Bool) : Reader Part := do
    let _ ← advance
    let span ← since first
    return .class span (.short span kind negated)
  if c.isDigit then fail ⟨first, (← charSpan).last⟩ .unsupportedBackreference
  match c with
  | 'x' | 'u' | 'U' => return .literal (← hexLiteral first c)
  | 'p' | 'P' =>
    let cls ← unicodeClass first (c = 'P')
    return .class (← since first) cls
  | 'd' => short .digit false
  | 'D' => short .digit true
  | 's' => short .space false
  | 'S' => short .space true
  | 'w' => short .word false
  | 'W' => short .word true
  | _ =>
    let _ ← advance
    let span ← since first
    let literal (char : Char) : Reader Part := return .literal { char, span }
    if isEscapable c then literal c
    else match c with
      | 'a' => literal '\x07'
      | 'f' => literal '\x0c'
      | 't' => literal '\t'
      | 'n' => literal '\n'
      | 'r' => literal '\r'
      | 'v' => literal '\x0b'
      | 'A' => return .anchor span .startText
      | 'z' => return .anchor span .endText
      | 'B' => return .anchor span .notWordBoundary
      | '<' => return .anchor span .wordStart
      | '>' => return .anchor span .wordEnd
      | 'b' =>
        if (← peek) = some '{' then
          match ← specialBoundary first with
          | some a => return .anchor (← since first) a
          | none => return .anchor span .wordBoundary
        else return .anchor span .wordBoundary
      | _ => fail span .escapeUnrecognized

/-- The next part of a pattern outside classes. -/
def part : Reader Part := do
  let span ← charSpan
  match ← peek with
  | some '\\' => escape
  | some c =>
    let _ ← advance
    match c with
    | '.' => return .dot span
    | '^' => return .anchor span .startLine
    | '$' => return .anchor span .endLine
    | _ => return .literal { char := c, span }
  | none => fail span .escapeUnexpectedEnd

namespace Part

/-- The expression of a part. -/
def expr : Part → Expr
  | literal l => .literal l
  | dot span => .dot span
  | anchor span a => .anchor span a
  | «class» _ c => .class c

/-- Where a part stands. -/
def span : Part → Span
  | literal l => l.span
  | dot span => span
  | anchor span _ => span
  | «class» span _ => span

end Part

/-! ## Classes in brackets -/

/-- A part within brackets. -/
def classPart : Reader Part := do
  match ← peek with
  | some '\\' => escape
  | some c =>
    let span ← charSpan
    let _ ← advance
    return .literal { char := c, span }
  | none => fail (← hereSpan) .classUnclosed

/-- The character of a part that bounds a range. -/
def rangeBound (p : Part) : Reader Literal :=
  match p with
  | .literal l => return l
  | p => fail p.span .classRangeLiteral

/-- A part or a range within brackets. -/
def classRange (unclosed : Span) : Reader ClassExpr := do
  let low ← classPart
  skipBlanks
  let some next ← peek | fail unclosed .classUnclosed
  let second ← peekSecondBlanks
  if next ≠ '-' ∨ second = some ']' ∨ second = some '-' then
    match low with
    | .literal l => return .literal l
    | .class _ c => return c
    | p => fail p.span .classEscapeInvalid
  else
    if !(← advanceBlanks) then fail unclosed .classUnclosed
    let high ← classPart
    let span : Span := ⟨low.span.first, high.span.last⟩
    let low ← rangeBound low
    let high ← rangeBound high
    if high.char < low.char then fail span .classRangeInvalid
    return .range low high

/-- An ASCII class such as `[:alpha:]`, if one stands next. -/
def asciiClass : Reader (Option ClassExpr) := do
  let s ← get
  let body := s.rest.drop 2
  let negated := body.head? = some '^'
  let body := if negated then body.drop 1 else body
  let name := body.takeWhile (· ≠ ':')
  let after := body.dropWhile (· ≠ ':')
  if s.rest.take 2 = ['[', ':'] ∧ after.take 2 = [':', ']'] ∧ (Charset.ascii? (String.ofList name)).isSome then
    let length := s.rest.length - (after.length - 2)
    set { s with rest := s.rest.drop length, place := placeAfter s.place (s.rest.take length) }
    return some (.ascii (← since s.place) (String.ofList name) negated)
  else return none

/-- The dashes that open a class stand for themselves. -/
def openingDashes (first : Place) : Nat → List ClassExpr → Reader (List ClassExpr)
  | 0, items => return items
  | n + 1, items => do
    if (← peek) = some '-' then
      let span ← charSpan
      if !(← advanceBlanks) then fail ⟨first, first⟩ .classUnclosed
      openingDashes first n (.literal { char := '-', span } :: items)
    else return items

/-- The start of a class: whether it is negated, and its first items, latest first. -/
def classOpening (first : Place) : Reader (Bool × List ClassExpr) := do
  if !(← advanceBlanks) then fail (← since first) .classUnclosed
  let negated := (← peek) = some '^'
  if negated then
    if !(← advanceBlanks) then fail (← since first) .classUnclosed
  let items ← openingDashes first (← get).rest.length []
  if items.isEmpty ∧ (← peek) = some ']' then
    let span ← charSpan
    if !(← advanceBlanks) then fail (← since first) .classUnclosed
    return (negated, [.literal { char := ']', span }])
  else return (negated, items)

/-- The class of some items, latest first; without items it stands at the given place. -/
def classUnion (place : Place) (items : List ClassExpr) : ClassExpr :=
  match items, items.getLast? with
  | [one], _ => one
  | last :: _, some first => .union ⟨first.span.first, last.span.last⟩ items.reverse
  | _, _ => .union ⟨place, place⟩ []

/-- The class of some items, latest first, joined to what stands before them. -/
def joined (pending : Option (SetOperator × ClassExpr)) (items : List ClassExpr) : Reader ClassExpr := do
  let right := classUnion (← here) items
  match pending with
  | some (op, left) => return .operator op left right
  | none => return right

/-- The items of a class up to its closing bracket. The operators bind alike, from left to right. -/
def classItems (unclosed : Span) : Nat → Option (SetOperator × ClassExpr) → List ClassExpr → Reader ClassExpr
  | 0, _, _ => fail unclosed .classUnclosed
  | n + 1, pending, items => do
    skipBlanks
    match ← peek with
    | none => fail unclosed .classUnclosed
    | some '[' =>
      match ← asciiClass with
      | some c => classItems unclosed n pending (c :: items)
      | none =>
        let first ← here
        let (negated, inner) ← classOpening first
        let inner ← classItems (← since first) n none inner
        classItems unclosed n pending (.bracketed (← since first) negated inner :: items)
    | some ']' =>
      let c ← joined pending items
      let _ ← advance
      return c
    | some c =>
      let operator? : Option SetOperator :=
        if (← peekSecond) = some c then
          match c with
          | '&' => some .intersection
          | '-' => some .difference
          | '~' => some .symmetricDifference
          | _ => none
        else none
      match operator? with
      | some op =>
        let left ← joined pending items
        let _ ← advance
        let _ ← advance
        classItems unclosed n (some (op, left)) []
      | none =>
        let item ← classRange unclosed
        classItems unclosed n pending (item :: items)

/-- A class in brackets; the reader stands on the opening one. -/
def bracketedClass : Reader ClassExpr := do
  let first ← here
  let (negated, items) ← classOpening first
  let inner ← classItems (← since first) ((← get).rest.length + 1) none items
  return .bracketed (← since first) negated inner

/-! ## Groups and repetitions -/

/-- The flag of a letter. -/
def flag : Reader Flag := do
  match ← peek with
  | some 'i' => return .caseInsensitive
  | some 'm' => return .multiLine
  | some 's' => return .dotMatchesNewLine
  | some 'U' => return .swapGreed
  | some 'u' => return .unicode
  | some 'R' => return .crlf
  | some 'x' => return .ignoreBlanks
  | _ => fail (← charSpan) .flagUnrecognized

/-- A list of flags up to a colon or a closing parenthesis; the items so far come latest first, with their places. -/
def flagList : Nat → List (FlagItem × Span) → Reader (List FlagItem)
  | 0, _ => return []
  | n + 1, items => do
    match ← peek with
    | some ':' | some ')' | none =>
      match items with
      | (.negation, span) :: _ => fail span .flagDanglingNegation
      | _ => return (items.map (·.1)).reverse
    | some c =>
      let span ← charSpan
      let item ← if c = '-' then pure FlagItem.negation else FlagItem.flag <$> flag
      match items.lookup item with
      | some earlier =>
        throw { fault := if c = '-' then .flagRepeatedNegation else .flagDuplicate, span, earlier := some earlier }
      | none =>
        if !(← advance) then fail (← hereSpan) .flagUnexpectedEnd
        flagList n ((item, span) :: items)

/-- A character of the name of a group. -/
def isNameChar (first : Bool) (c : Char) : Bool :=
  if first then c == '_' || isAlphabetic c
  else c == '_' || c == '.' || c == '[' || c == ']' || isAlphanumeric c

/-- The characters of the name of a group up to the closing angle. -/
def nameChars (first : Place) : Nat → List Char → Reader (List Char)
  | 0, name => return name.reverse
  | n + 1, name => do
    match ← peek with
    | none => fail (← hereSpan) .groupNameUnexpectedEnd
    | some '>' => return name.reverse
    | some c =>
      if !isNameChar name.isEmpty c then fail (← charSpan) .groupNameInvalid
      let _ ← advance
      nameChars first n (c :: name)

/-- The name of a group, which no earlier group may have. -/
def groupName : Reader Unit := do
  let first ← here
  let name ← nameChars first ((← get).rest.length + 1) []
  let span ← since first
  let _ ← advance
  if name.isEmpty then fail ⟨first, first⟩ .groupNameEmpty
  let s ← get
  match s.names.lookup name with
  | some earlier => throw { fault := .groupNameDuplicate, span, earlier := some earlier }
  | none => set { s with names := (name, span) :: s.names }

/-- How a group opens: flags for what follows, or a group with flags of its own. -/
inductive Opening where
  | flags (span : Span) (items : List FlagItem)
  | group (span : Span) (items : List FlagItem)

/-- The start of a group; the reader stands on the parenthesis. -/
def opening : Reader Opening := do
  let span ← charSpan
  let _ ← advance
  skipBlanks
  let inner ← hereSpan
  for mark in ["?=", "?!", "?<=", "?<!"] do
    if ← take? mark.toList then fail (← since span.first) .unsupportedLookAround
  if ← take? "?P<".toList then
    groupName
    return .group span []
  if ← take? "?<".toList then
    groupName
    return .group span []
  if ← take? "?".toList then
    if (← peek).isNone then fail span .groupUnclosed
    let items ← flagList ((← get).rest.length + 1) []
    let closing ← peek
    let _ ← advance
    if closing = some ')' then
      if items.isEmpty then fail inner .repetitionMissing
      return .flags (← since span.first) items
    return .group span items
  return .group span []

/-- The expression that a repetition applies to: the latest one, unless it is a list of flags. -/
def operand (items : List Expr) : Reader (Expr × List Expr) := do
  match items with
  | [] => fail (← hereSpan) .repetitionMissing
  | .flags _ _ :: _ => fail (← hereSpan) .repetitionMissing
  | e :: rest => return (e, rest)

/-- A repetition by one sign; the reader stands on it. -/
def signRepetition (sign : Char) (items : List Expr) : Reader (List Expr) := do
  let (e, rest) ← operand items
  let more ← advance
  let lazy := more && (← peek) == some '?'
  if lazy then let _ ← advance
  let (min, max) := if sign = '?' then (0, some 1) else if sign = '*' then (0, none) else (1, none)
  return .repetition (← since e.span.first) min max (!lazy) e :: rest

/-- Passes over blanks, whatever they mean. -/
def plainBlanks : Nat → Reader Unit
  | 0 => return
  | n + 1 => do
    match ← peek with
    | some c =>
      if isBlank c then
        let _ ← advanceBlanks
        plainBlanks n
    | none => return

/-- The digits of a number. -/
def digits : Nat → List Char → Reader (List Char)
  | 0, ds => return ds.reverse
  | n + 1, ds => do
    match ← peek with
    | some c =>
      if c.isDigit then
        let _ ← advanceBlanks
        digits n (c :: ds)
      else return ds.reverse
    | none => return ds.reverse

/-- A number with blanks around it, or what is wrong with it. -/
def decimal : Reader (Except PatternError Nat) := do
  let length := (← get).rest.length
  plainBlanks length
  let first ← here
  let ds ← digits length []
  let span ← since first
  plainBlanks length
  if ds.isEmpty then return .error { fault := .repetitionCountDecimalEmpty, span }
  let n := ds.foldl (fun n c => 10 * n + (c.toNat - 48)) 0
  if n < UInt32.size then return .ok n else return .error { fault := .decimalInvalid, span }

/-- A repetition by counts in braces; the reader stands on the opening one. -/
def countRepetition (items : List Expr) : Reader (List Expr) := do
  let first ← here
  let (e, rest) ← operand items
  if !(← advanceBlanks) then fail (← since first) .repetitionCountUnclosed
  let low ← decimal
  if (← peek).isNone then fail (← since first) .repetitionCountUnclosed
  let (min, max) ←
    if (← peek) = some ',' then
      if !(← advanceBlanks) then fail (← since first) .repetitionCountUnclosed
      if (← peek) ≠ some '}' then do
        let low ← low
        let high ← decimal
        pure (low, some (← high))
      else pure (← low, none)
    else do
      let low ← low
      pure (low, some low)
  if (← peek) ≠ some '}' then fail (← since first) .repetitionCountUnclosed
  let more ← advanceBlanks
  let lazy := more && (← peek) == some '?'
  if lazy then let _ ← advance
  let span ← since first
  match max with
  | some high => if high < min then fail span .repetitionCountInvalid
  | none => pure ()
  return .repetition (← since e.span.first) min max (!lazy) e :: rest

/-! ## The whole pattern -/

/-- The concatenation of some expressions, latest first, from a place on. -/
def sequenceFrom (start : Place) (items : List Expr) : Reader Expr := do
  match items with
  | [one] => return one
  | _ => return .concat (← since start) items.reverse

/-- The alternation of some branches, latest first, from a place on. -/
def branchesFrom (start : Place) : List Expr → Reader Expr
  | [one] => return one
  | branches => return .alternation (← since start) branches.reverse

/-- Sets whether blanks mean nothing, where a list of flags says so. -/
def setBlanks (items : List FlagItem) : Reader Unit := do
  match flagState .ignoreBlanks items with
  | some b => modify fun s => { s with ignoreBlanks := b }
  | none => pure ()

/-- Reads up to the end of the group that is open, or of the pattern. Items and branches so far come latest first; the first
branch and the one that is being read start at the given places. -/
def body : Nat → Option Span → (first start : Place) → List Expr → List Expr → Reader Expr
  | 0, _, _, _, _, _ => return .concat (← hereSpan) []
  | n + 1, opened, first, start, items, branches => do
    skipBlanks
    match ← peek with
    | none =>
      match opened with
      | some span => fail span .groupUnclosed
      | none => branchesFrom first ((← sequenceFrom start items) :: branches)
    | some '(' =>
      match ← opening with
      | .flags span list =>
        setBlanks list
        body n opened first start (.flags span list :: items) branches
      | .group span list =>
        let outside := (← get).ignoreBlanks
        setBlanks list
        let inside ← here
        let inner ← body n (some span) inside inside [] []
        modify fun s => { s with ignoreBlanks := outside }
        body n opened first start (.group (← since span.first) list inner :: items) branches
    | some ')' =>
      if opened.isNone then fail (← charSpan) .groupUnopened
      let e ← branchesFrom first ((← sequenceFrom start items) :: branches)
      let _ ← advance
      return e
    | some '|' =>
      let branch ← sequenceFrom start items
      let _ ← advance
      body n opened first (← here) [] (branch :: branches)
    | some '[' =>
      let c ← bracketedClass
      body n opened first start (.class c :: items) branches
    | some '?' => body n opened first start (← signRepetition '?' items) branches
    | some '*' => body n opened first start (← signRepetition '*' items) branches
    | some '+' => body n opened first start (← signRepetition '+' items) branches
    | some '{' => body n opened first start (← countRepetition items) branches
    | some _ =>
      let p ← part
      body n opened first start (p.expr :: items) branches

end Reader

/-- Reads a pattern. -/
def Expr.ofText (pattern : List Char) : Except PatternError Expr :=
  (Reader.body (2 * pattern.length + 2) none .start .start [] []).run' ⟨pattern, .start, false, []⟩

end ComponentAudit.Pattern
