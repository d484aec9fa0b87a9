/-!
# Character ranges

A set of characters as an ascending array of closed ranges of code points, the form in which the Unicode character
database lists its properties. `Ranges.ofText` reads the compact notation `41-5a aa b5`, code points in hexadecimal;
membership is a binary search.
-/

namespace ComponentAudit.Text

/-- Ascending, disjoint, closed ranges of code points. -/
abbrev Ranges := Array (Nat × Nat)

/-- The value of a hexadecimal digit; anything else counts as zero. -/
def hexValue (c : Char) : Nat :=
  if c.isDigit then c.toNat - 48
  else if 'a' ≤ c ∧ c ≤ 'f' then c.toNat - 87
  else if 'A' ≤ c ∧ c ≤ 'F' then c.toNat - 55
  else 0

/-- A hexadecimal number. -/
def hexNumber (s : List Char) : Nat :=
  s.foldl (fun n c => 16 * n + hexValue c) 0

namespace Ranges

/-- One range of the notation: a code point, or two with a dash between. -/
def range (word : List Char) : Nat × Nat :=
  let low := word.takeWhile (· ≠ '-')
  match word.dropWhile (· ≠ '-') with
  | _ :: high => (hexNumber low, hexNumber high)
  | [] => (hexNumber low, hexNumber low)

/-- The words of a text, divided by single spaces. -/
def words (s : String) : List (List Char) :=
  s.toList.splitOnP (· = ' ') |>.filter (· ≠ [])

/-- Reads lines in the compact notation. -/
def ofText (lines : List String) : Ranges :=
  ((lines.flatMap words).map range).toArray

/-- Binary search for a range that holds the code point among those numbered from `low` to before `high`. -/
def search (ranges : Ranges) (code low high : Nat) : Bool :=
  if low < high then
    let middle := (low + high) / 2
    match ranges[middle]? with
    | none => false
    | some (first, last) =>
      if code < first then search ranges code low middle
      else if last < code then search ranges code (middle + 1) high
      else true
  else false
termination_by high - low

/-- Whether a code point lies in one of the ranges. -/
def contains (ranges : Ranges) (code : Nat) : Bool :=
  ranges.search code 0 ranges.size

end Ranges

end ComponentAudit.Text
