/-!
# UTF-8

The bytes of a text, and the bytes of a file or of its name read as characters. Where the bytes are not UTF-8, the longest run
that begins a well-formed character but does not complete it, or else the one offending byte, is replaced by U+FFFD.
-/

namespace ComponentAudit.Text

/-- The bytes of a text in UTF-8. -/
def utf8 (s : List Char) : List UInt8 :=
  s.flatMap String.utf8EncodeChar

/-- A text stands for its bytes. -/
instance coeUtf8 : Coe String (List UInt8) := ⟨fun s => utf8 s.toList⟩

namespace Utf8

/-- One unit of a decoded byte string. -/
inductive Piece where
  /-- A well-formed character. -/
  | char (c : Char)
  /-- Ill-formed bytes that are replaced together. -/
  | bad (bytes : Nat)
  deriving Repr, DecidableEq

/-- How many bytes a piece was read from. -/
def Piece.size : Piece → Nat
  | .char c => c.utf8Size
  | .bad n => n

/-- The character that a piece stands for in the decoded text. -/
def Piece.shown : Piece → Char
  | .char c => c
  | .bad _ => '\uFFFD'

/-- A byte between two others. -/
def between (low high : Nat) (b : UInt8) : Bool :=
  low ≤ b.toNat && b.toNat ≤ high

/-- A byte that may stand after the first one of a character. -/
def isTail (b : UInt8) : Bool :=
  between 0x80 0xBF b

/-- The six bits that a later byte adds to a code point. -/
def join (high : Nat) (b : UInt8) : Nat :=
  high * 64 + (b.toNat - 0x80)

/-- Two bytes that open a character of three. -/
def opensThree (a b : UInt8) : Bool :=
  (a == 0xE0 && between 0xA0 0xBF b) || (between 0xE1 0xEC a && isTail b) || (a == 0xED && between 0x80 0x9F b) ||
    (between 0xEE 0xEF a && isTail b)

/-- Two bytes that open a character of four. -/
def opensFour (a b : UInt8) : Bool :=
  (a == 0xF0 && between 0x90 0xBF b) || (between 0xF1 0xF3 a && isTail b) || (a == 0xF4 && between 0x80 0x8F b)

/-- The piece that starts with byte `a`, and how many of the bytes after it belong to it. -/
def piece (a : UInt8) (rest : List UInt8) : Piece × Nat :=
  if a.toNat < 0x80 then (.char (Char.ofNat a.toNat), 0)
  else if between 0xC2 0xDF a then
    match rest with
    | b :: _ => if isTail b then (.char (Char.ofNat (join (a.toNat - 0xC0) b)), 1) else (.bad 1, 0)
    | [] => (.bad 1, 0)
  else if between 0xE0 0xEF a then
    match rest with
    | b :: c :: _ =>
      if opensThree a b then
        if isTail c then (.char (Char.ofNat (join (join (a.toNat - 0xE0) b) c)), 2) else (.bad 2, 1)
      else (.bad 1, 0)
    | [b] => if opensThree a b then (.bad 2, 1) else (.bad 1, 0)
    | [] => (.bad 1, 0)
  else if between 0xF0 0xF4 a then
    match rest with
    | b :: c :: d :: _ =>
      if opensFour a b then
        if isTail c then
          if isTail d then (.char (Char.ofNat (join (join (join (a.toNat - 0xF0) b) c) d)), 3) else (.bad 3, 2)
        else (.bad 2, 1)
      else (.bad 1, 0)
    | [b, c] => if opensFour a b then (if isTail c then (.bad 3, 2) else (.bad 2, 1)) else (.bad 1, 0)
    | [b] => if opensFour a b then (.bad 2, 1) else (.bad 1, 0)
    | [] => (.bad 1, 0)
  else (.bad 1, 0)

/-- A byte string cut into characters and ill-formed runs. -/
def pieces : List UInt8 → List Piece
  | [] => []
  | a :: rest => (piece a rest).1 :: pieces (rest.drop (piece a rest).2)
termination_by bytes => bytes.length
decreasing_by simp only [List.length_drop, List.length_cons]; omega

/-- The text of a byte string, with U+FFFD for what is not UTF-8. -/
def decodeLossy (bytes : List UInt8) : List Char :=
  (pieces bytes).map Piece.shown

/-- The text of a byte string that is UTF-8 throughout. -/
def decode? (bytes : List UInt8) : Option (List Char) :=
  (pieces bytes).mapM fun
    | .char c => some c
    | .bad _ => none

/-- The number of bytes before the first one that is not UTF-8. -/
def validLength (bytes : List UInt8) : Nat :=
  ((pieces bytes).takeWhile fun | .char _ => true | .bad _ => false).foldr (fun p n => p.size + n) 0

end Utf8

/-- Some bytes as people read them. -/
def lossy (bytes : List UInt8) : String :=
  String.ofList (Utf8.decodeLossy bytes)

end ComponentAudit.Text
