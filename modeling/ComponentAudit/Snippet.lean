import ComponentAudit.Issue
import ComponentAudit.Text.Wrap

/-!
# Snippets

A diagnostic drawn over the text of its file: the message, the lines around the span with their numbers, the span
underlined and named, and the help. Only ASCII characters are used to draw.
-/

namespace ComponentAudit

open Text

/-- A line of a snippet: its number, where it starts, how long it is with its end, and its text without its end. -/
structure SnippetLine where
  number : Nat
  offset : Nat
  size : Nat
  text : List Char
  deriving Repr, DecidableEq

namespace SnippetLine

/-- The offset after a line. -/
def stop (l : SnippetLine) : Nat :=
  l.offset + l.size

/-- Whether a span lies within the line. -/
def holds (l : SnippetLine) (span : Label) : Bool :=
  l.offset ≤ span.offset && span.offset + span.length ≤ l.stop

/-- Whether a span starts in the line. -/
def opens (l : SnippetLine) (span : Label) : Bool :=
  l.offset ≤ span.offset && span.offset < l.stop

/-- Whether the last character of a span is in the line; a span without characters is taken for one. -/
def closes (l : SnippetLine) (span : Label) : Bool :=
  let last := span.offset + max span.length 1
  l.offset < last && last ≤ l.stop

/-- Whether the line is within a span that starts before it and ends after it. -/
def isWithin (l : SnippetLine) (span : Label) : Bool :=
  span.offset < l.offset && l.stop < span.offset + max span.length 1

/-- Whether a span touches the line. -/
def touches (l : SnippetLine) (span : Label) : Bool :=
  l.opens span || l.isWithin span || l.closes span

/-- Whether a span runs past the line, so that it is drawn beside it. -/
def runsBeside (l : SnippetLine) (span : Label) : Bool :=
  l.touches span && !(l.opens span && l.closes span)

/-- Whether a span ends at the line. -/
def ends (l : SnippetLine) (span : Label) : Bool :=
  l.offset ≤ span.offset + span.length && span.offset + span.length ≤ l.stop

end SnippetLine

namespace Snippet

/-! ## Choosing the lines -/

/-- How many lines are shown before and after a span. -/
def contextLines : Nat := 1

/-- The offset of each line of a text that starts at an offset. Here a carriage return ends a line, too. -/
def lineStarts (offset : Nat) : List Char → List Nat
  | '\r' :: '\n' :: rest => (offset + 2) :: lineStarts (offset + 2) rest
  | c :: rest =>
    if c = '\r' ∨ c = '\n' then (offset + 1) :: lineStarts (offset + 1) rest
    else lineStarts (offset + c.utf8Size) rest
  | [] => []

/-- The offset after the last shown character: lines are counted once the span has been passed. -/
def lastShown (span : Label) (offset : Nat) (passed : Bool) (ended : Nat) : List Char → Nat
  | [] => offset
  | '\r' :: '\n' :: rest => lineEnd span (offset + 1) passed ended rest
  | c :: rest =>
    if c = '\r' ∨ c = '\n' then lineEnd span offset passed ended rest
    else
      let size := c.utf8Size
      lastShown span (offset + size) (passed || span.offset + span.length ≤ offset + size) ended rest
where
  /-- The same from the last character of a line end on. -/
  lineEnd (span : Label) (offset : Nat) (passed : Bool) (ended : Nat) (rest : List Char) : Nat :=
    let ended := if passed ∧ span.offset + (span.length - 1) ≤ offset then ended + 1 else ended
    if contextLines < ended then offset + 1
    else lastShown span (offset + 1) (passed || span.offset + span.length ≤ offset + 1) ended rest

/-- The lines of a text, given the number of lines before it. Only a line feed ends a line that is shown. -/
def linesOf (number start offset : Nat) (text : List Char) : List Char → List SnippetLine
  | [] => []
  | '\r' :: '\n' :: rest =>
    ⟨number + 1, start, offset + 2 - start, text.reverse⟩ :: linesOf (number + 1) (offset + 2) (offset + 2) [] rest
  | '\n' :: rest =>
    ⟨number + 1, start, offset + 1 - start, text.reverse⟩ :: linesOf (number + 1) (offset + 1) (offset + 1) [] rest
  | ['\r'] => [⟨number, start, offset + 1 - start, ('\r' :: text).reverse⟩]
  | [c] => [⟨number + 1, start, offset + c.utf8Size - start, (c :: text).reverse⟩]
  | c :: rest => linesOf number start (offset + c.utf8Size) (c :: text) rest

/-- The starts of the lines up to the one that a span starts in; there is always one. -/
def startsBefore (content : List Char) (span : Label) : List Nat :=
  0 :: (lineStarts 0 content).takeWhile (· ≤ span.offset)

/-- The lines around a span. -/
def shownLines (content : List Char) (span : Label) : List SnippetLine :=
  let starts := startsBefore content span
  let before := starts.length - 1 - contextLines
  let start := starts.getD before 0
  let stop := lastShown span 0 false 0 content
  let text := (dropBytes? start content).getD []
  linesOf before start start [] ((takeBytes? (stop - start) text).getD text)

/-! ## Columns -/

/-- How far apart the stops of a tab are. -/
def tabWidth : Nat := 4

/-- The width of each character of a line. Colour sequences take no room. -/
def charWidths (column : Nat) (inSequence : Bool) : List Char → List Nat
  | [] => []
  | c :: rest =>
    if inSequence then 0 :: charWidths column (c ≠ 'm') rest
    else if c = '\t' then
      let w := tabWidth - column % tabWidth
      w :: charWidths (column + w) false rest
    else if c = '\x1b' then 0 :: charWidths column true rest
    else charWidth c :: charWidths (column + charWidth c) false rest

/-- A line with its tabs turned into blanks. -/
def expanded (text : List Char) : String :=
  String.ofList ((text.zip (charWidths 0 false text)).flatMap fun (c, w) =>
    if c = '\t' then List.replicate w ' ' else [c])

/-- The characters of a text that lie within its first bytes, counting a character that lies there in part if asked for. -/
def within (partly : Bool) : Nat → List Char → List Char
  | 0, _ => []
  | _ + 1, [] => []
  | n + 1, c :: rest =>
    if c.utf8Size ≤ n + 1 then c :: within partly (n + 1 - c.utf8Size) rest
    else if partly then [c] else []
termination_by _ s => s.length

/-- The column of an offset in a line. What is past the text is one column after it. -/
def columnOf (l : SnippetLine) (offset : Nat) (partly : Bool) : Nat :=
  let bytes := offset - l.offset
  let columns := (charWidths 0 false (within partly bytes l.text)).foldr (fun w n => w + n) 0
  if byteLength l.text < bytes then columns + 1 else columns

/-! ## Drawing -/

/-- A character several times. -/
def times (n : Nat) (c : Char) : String :=
  String.ofList (List.replicate n c)

/-- A number right-aligned. -/
def rightAligned (size : Nat) (s : String) : String :=
  times (size - s.length) ' ' ++ s

/-- What stands beside a line for a span that runs past it. -/
def gutter (l : SnippetLine) (span : Label) : String :=
  if !l.runsBeside span then "    "
  else if l.offset ≤ span.offset then ",-> "
  else if l.ends span then "|-> "
  else if span.offset < l.offset ∧ l.stop < span.offset + span.length then "|   "
  else "    "

/-- The line that underlines a span within a line, and the one that names it. -/
def underline (l : SnippetLine) (span : Label) : List String :=
  let start := columnOf l span.offset false
  let stop := if span.length = 0 then start + 1 else max (columnOf l (span.offset + span.length) true) (start + 1)
  let middle := (start + stop) / 2
  let mark := if span.length = 0 then "^" else "|"
  [times start ' ' ++ times (middle - start) '^' ++ mark ++ times (stop - middle - 1) '^',
    times middle ' ' ++ "`-- " ++ span.text]

/-- How many blanks can be put before an underline. -/
def marginLimit : Nat := 65535

/-- Whether there is room below a line for what underlines a span. -/
def hasRoom (l : SnippetLine) (span : Label) : Bool :=
  !(l.touches span && l.holds span) || columnOf l span.offset false ≤ marginLimit

/-- A line with what is drawn below it. -/
def lineBlock (numberWidth : Nat) (beside : Bool) (span : Label) (l : SnippetLine) : List String :=
  let blank := " " ++ times numberWidth ' ' ++ " : "
  let side := if beside then gutter l span else ""
  let below := if beside then "    " else ""
  let marks :=
    if !l.touches span then []
    else if l.holds span then (underline l span).map (blank ++ below ++ ·)
    else if l.ends span ∧ span.offset < l.offset then [s!"{blank}`---- {span.text}"]
    else []
  s!" {rightAligned numberWidth (toString l.number)} | {side}{expanded l.text}" :: marks

/-- The line and the column of a span, the column in bytes. -/
def position (content : List Char) (span : Label) : Position :=
  let starts := startsBefore content span
  ⟨starts.length, span.offset - starts.getLastD 0 + 1⟩

end Snippet

namespace Diagnostic

/-- How wide a drawing is. -/
def drawingWidth : Nat := 198

/-- The lines around the span. -/
def snippet (d : Diagnostic) : List String :=
  let lines := Snippet.shownLines d.content d.label
  let numberWidth := (toString ((lines.getLast?.map (·.number)).getD 0)).length
  let beside := lines.any fun l => !l.holds d.label && l.runsBeside d.label
  let p := Snippet.position d.content d.label
  let margin := Snippet.times (numberWidth + 2) ' '
  [s!"{margin},-[{d.file}:{p.line}:{p.column}]"] ++
    lines.flatMap (Snippet.lineBlock numberWidth beside d.label) ++ [s!"{margin}`----"]

/-- Whether the diagnostic can be drawn: a span that is too far to the right is not underlined. -/
def isDrawable (d : Diagnostic) : Bool :=
  (Snippet.shownLines d.content d.label).all fun l => Snippet.hasRoom l d.label

/-- The diagnostic as it is drawn. -/
def drawing (d : Diagnostic) : List String :=
  wrap drawingWidth "  x " "  | " d.text.toList ++ d.snippet ++
    match d.help with
    | some help => wrap drawingWidth "  help: " "        " help.toList
    | none => []

end Diagnostic

end ComponentAudit
