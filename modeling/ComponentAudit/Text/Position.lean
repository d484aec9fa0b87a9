/-!
# Lines, columns and byte offsets

A text is a list of characters. A position names a character by line and column, both counted from one, a column per
character; an offset counts the bytes of the text's UTF-8 form before it. Lines end at line feeds only.
-/

namespace ComponentAudit.Text

/-- The number of bytes that a text takes in UTF-8. -/
def byteLength (s : List Char) : Nat :=
  s.foldr (fun c n => c.utf8Size + n) 0

/-- A line and a column of a text, counted from one. -/
structure Position where
  line : Nat
  column : Nat
  deriving Repr, DecidableEq

namespace Position

/-- The position of the first character. -/
def start : Position := ⟨1, 1⟩

/-- The position after a character: a line feed opens the next line. -/
def next (p : Position) (c : Char) : Position :=
  if c = '\n' then ⟨p.line + 1, 1⟩ else ⟨p.line, p.column + 1⟩

/-- The position after a text. -/
def advance (p : Position) (s : List Char) : Position :=
  s.foldl next p

end Position

/-- The parts of a text, in characters or in bytes, between the occurrences of one of them; one more than there are
occurrences. -/
def split {α : Type} [DecidableEq α] (separator : α) : List α → List (List α)
  | [] => [[]]
  | c :: rest =>
    if c = separator then [] :: split separator rest
    else match split separator rest with
      | [] => [[c]]
      | part :: others => (c :: part) :: others

/-- Puts parts together with a separator between them. -/
def join {α : Type} (separator : α) : List (List α) → List α
  | [] => []
  | [part] => part
  | part :: others => part ++ separator :: join separator others

/-- The parts of a text between line feeds. -/
def lines (s : List Char) : List (List Char) :=
  split '\n' s

/-- A line of a text with its number and the offset of its first byte. -/
structure Line where
  number : Nat
  offset : Nat
  text : List Char
  deriving Repr, DecidableEq

/-- Numbers a run of lines: each starts one byte, the line feed, after the one before it. -/
def numberLines : Nat → Nat → List (List Char) → List Line
  | _, _, [] => []
  | number, offset, line :: others =>
    ⟨number, offset, line⟩ :: numberLines (number + 1) (offset + byteLength line + 1) others

/-- The lines of a text with their numbers and offsets. -/
def numberedLines (s : List Char) : List Line :=
  numberLines 1 0 (lines s)

/-- The characters of a text's first `n` bytes, or nothing where byte `n` is not the start of a character or the end of
the text. -/
def takeBytes? : Nat → List Char → Option (List Char)
  | 0, _ => some []
  | _ + 1, [] => none
  | n + 1, c :: rest =>
    if c.utf8Size ≤ n + 1 then (takeBytes? (n + 1 - c.utf8Size) rest).map (c :: ·) else none
termination_by _ s => s.length

/-- The characters after a text's first `n` bytes, or nothing where byte `n` is not the start of a character or the end
of the text. -/
def dropBytes? : Nat → List Char → Option (List Char)
  | 0, s => some s
  | _ + 1, [] => none
  | n + 1, c :: rest => if c.utf8Size ≤ n + 1 then dropBytes? (n + 1 - c.utf8Size) rest else none
termination_by _ s => s.length

/-- Whether one text stands somewhere within another. -/
def contains (needle : List Char) : List Char → Bool
  | [] => needle.isEmpty
  | c :: rest => needle.isPrefixOf (c :: rest) || contains needle rest

end ComponentAudit.Text
