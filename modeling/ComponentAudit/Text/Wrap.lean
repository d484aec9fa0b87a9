import ComponentAudit.Text.Position
import ComponentAudit.Text.Width

/-!
# Wrapped text

Text cut into lines of a width. Lines break between words, after a hyphen within a word, and within a word that is longer
than a line. Every line is indented; blanks at its end are left out.
-/

namespace ComponentAudit.Text

/-- A part of a line that is kept together, with the number of blanks after it. -/
structure Word where
  text : List Char
  blanks : Nat
  deriving Repr, DecidableEq

namespace Word

/-- The words of a line. Blanks at its start follow a word without text. -/
def ofLine : List Char → List Word
  | [] => []
  | c :: rest =>
    if c = ' ' then
      match ofLine rest with
      | ⟨[], n⟩ :: others => ⟨[], n + 1⟩ :: others
      | others => ⟨[], 1⟩ :: others
    else
      match ofLine rest with
      | ⟨text, n⟩ :: others => ⟨c :: text, n⟩ :: others
      | [] => [⟨[c], 0⟩]

/-- A word cut after each hyphen that stands between letters or digits. -/
def atHyphens (before : Option Char) (blanks : Nat) : List Char → List Word
  | [] => []
  | '-' :: c :: rest =>
    if before.any Char.isAlphanum ∧ c.isAlphanum then
      ⟨['-'], 0⟩ :: atHyphens (some '-') blanks (c :: rest)
    else extend '-' (atHyphens (some '-') blanks (c :: rest))
  | c :: rest =>
    match rest with
    | [] => [⟨[c], blanks⟩]
    | _ => extend c (atHyphens (some c) blanks rest)
where
  /-- Puts a character before the first of some words. -/
  extend (c : Char) : List Word → List Word
    | [] => [⟨[c], blanks⟩]
    | w :: rest => { w with text := c :: w.text } :: rest

/-- The number of columns of a word without the blanks after it. -/
def width (w : Word) : Nat :=
  Text.width w.text

/-- A word cut where it is longer than a line. -/
def cut (limit : Nat) (blanks : Nat) (taken : List Char) : List Char → List Word
  | [] => [⟨taken.reverse, blanks⟩]
  | c :: rest =>
    if 0 < Text.width taken ∧ limit < Text.width taken + charWidth c then
      ⟨taken.reverse, 0⟩ :: cut limit blanks [c] rest
    else cut limit blanks (c :: taken) rest

/-- The words of a line, none of them longer than a line of the limit. -/
def pieces (limit : Nat) (line : List Char) : List Word :=
  ((ofLine line).flatMap fun w => if w.text.isEmpty then [w] else atHyphens none w.blanks w.text).flatMap fun w =>
    if limit < w.width then cut limit w.blanks [] w.text else [w]

/-- The text of some words, without the blanks after the last one. -/
def joined : List Word → List Char
  | [] => []
  | [w] => w.text
  | w :: rest => w.text ++ List.replicate w.blanks ' ' ++ joined rest

/-- Fills lines with words: a word goes on the next line if it does not fit on the one begun. -/
def fill (limit : Nat) (line : List Word) (used : Nat) : List Word → List (List Word)
  | [] => [line.reverse]
  | w :: rest =>
    if limit < used + w.width ∧ line ≠ [] then line.reverse :: fill limit [w] (w.width + w.blanks) rest
    else fill limit (w :: line) (used + w.width + w.blanks) rest

end Word

/-- A text in lines of a width, the first one after one indent and the others after another, both equally wide. -/
def wrap (limit : Nat) (first others : String) (text : List Char) : List String :=
  let room := limit - width first.toList
  let wrapped := (lines text).flatMap fun line => Word.fill room [⟨[], 0⟩] 0 (Word.pieces room line)
  match wrapped.map fun words => String.ofList (Word.joined words) with
  | [] => []
  | line :: rest => (first ++ line) :: rest.map (others ++ ·)

end ComponentAudit.Text
