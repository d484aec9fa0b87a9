import ComponentAudit.Pattern.Regex

/-!
# The size of regular expressions

How much room a regular expression takes once every repetition by counts is written out, as an estimate in bytes. One that
takes too much room is refused, since counts within counts make a short pattern as large as one likes.
-/

namespace ComponentAudit.Pattern

/-- The room of a set, by the number of its ranges; a range beyond ASCII takes several bytes of text. -/
def Charset.size : Charset → Nat
  | none => 32
  | range low high =>
    if low = high then 32 * low.utf8Size
    else if high.toNat < 128 then 72
    else 264
  | table ranges => 64 * ranges.size
  | digit => 4504
  | blank => 680
  | word => 46688
  | union a b | diff a b | oneOf a b => a.size + b.size
  | inter a b => min a.size b.size
  | complement a => a.size + 1000
  | folded a => 2 * a.size

namespace Regex

/-- The room of a regular expression. What stands for no text takes none, however often it is repeated. The estimate is made
from the expression and not from the states of an automaton, and it is too high for a set whose ranges share states: a hundred
thousand times `[a-z0-9]` is refused, although its automaton would fit. -/
def size : Regex → Nat
  | empty | look _ => 0
  | set s => s.size
  | concat a b => a.size + b.size
  | either a b => a.size + b.size + 64
  | repetition r min none _ => max 1 min * r.size + 64
  | repetition r min (some max) _ => max * r.size + (max - min) * 36

/-- The most room that a regular expression may take: ten mebibytes. -/
def sizeLimit : Nat := 10485760

end Regex

end ComponentAudit.Pattern
