import ComponentAudit.Text.Blank
import ComponentAudit.Text.CaseFold
import ComponentAudit.Text.Category
import ComponentAudit.Text.Letters
import ComponentAudit.Text.Properties
import ComponentAudit.Text.Script

/-!
# Sets of characters

The sets that a pattern can name: single characters and ranges, digits, blanks and word characters, general categories,
scripts and properties, and what is made of them by union, intersection, difference, complement and folding of case.
-/

namespace ComponentAudit.Pattern

open Text

/-- A set of characters. -/
inductive Charset where
  | none
  | range (low high : Char)
  | table (ranges : Ranges)
  /-- Decimal digits of every script. -/
  | digit
  /-- White space of every script. -/
  | blank
  /-- Letters, marks, decimal digits, connectors and joiners. -/
  | word
  | union (a b : Charset)
  | inter (a b : Charset)
  | diff (a b : Charset)
  /-- What is in one of the two sets only. -/
  | oneOf (a b : Charset)
  | complement (a : Charset)
  /-- The characters that differ in case only from one of the set. -/
  | folded (a : Charset)
  deriving Repr

/-- A decimal digit of some script. -/
def isDecimalDigit (c : Char) : Bool :=
  if c.toNat < 128 then c.isDigit else categoryNd.contains c.toNat

/-- A character of a word. -/
def isWordChar (c : Char) : Bool :=
  if c.toNat < 128 then c.isAlphanum || c == '_'
  else alphabeticRanges.contains c.toNat || categoryNd.contains c.toNat || categoryMn.contains c.toNat ||
    categoryMc.contains c.toNat || categoryMe.contains c.toNat || categoryPc.contains c.toNat ||
    c.toNat == 0x200C || c.toNat == 0x200D

/-- A character of a word, among the ASCII ones. -/
def isAsciiWordChar (c : Char) : Bool :=
  c.toNat < 128 && (c.isAlphanum || c == '_')

namespace Charset

/-- Whether a character is in the set. -/
def contains : Charset → Char → Bool
  | none, _ => false
  | range low high, c => low ≤ c && c ≤ high
  | table ranges, c => ranges.contains c.toNat
  | digit, c => isDecimalDigit c
  | blank, c => isBlank c
  | word, c => isWordChar c
  | union a b, c => a.contains c || b.contains c
  | inter a b, c => a.contains c && b.contains c
  | diff a b, c => a.contains c && !b.contains c
  | oneOf a b, c => a.contains c != b.contains c
  | complement a, c => !a.contains c
  | folded a, c => (caseVariants c).any a.contains

/-- The set of one character. -/
def single (c : Char) : Charset :=
  range c c

/-- The set of the characters of some sets. -/
def unions : List Charset → Charset
  | [] => none
  | [a] => a
  | a :: rest => union a (unions rest)

/-- The set of some ranges. -/
def ranges (l : List (Char × Char)) : Charset :=
  unions (l.map fun (low, high) => range low high)

/-- The set or its complement. -/
def complementIf (negated : Bool) (a : Charset) : Charset :=
  if negated then complement a else a

/-- Every character. -/
def all : Charset :=
  complement none

/-- The sets of ASCII characters with a name of their own. -/
def ascii? : String → Option Charset
  | "alnum" => some (ranges [('0', '9'), ('A', 'Z'), ('a', 'z')])
  | "alpha" => some (ranges [('A', 'Z'), ('a', 'z')])
  | "ascii" => some (ranges [('\x00', '\x7f')])
  | "blank" => some (ranges [('\t', '\t'), (' ', ' ')])
  | "cntrl" => some (ranges [('\x00', '\x1f'), ('\x7f', '\x7f')])
  | "digit" => some (ranges [('0', '9')])
  | "graph" => some (ranges [('!', '~')])
  | "lower" => some (ranges [('a', 'z')])
  | "print" => some (ranges [(' ', '~')])
  | "punct" => some (ranges [('!', '/'), (':', '@'), ('[', '\x60'), ('\x7b', '~')])
  | "space" => some (ranges [('\t', '\r'), (' ', ' ')])
  | "upper" => some (ranges [('A', 'Z')])
  | "word" => some (ranges [('0', '9'), ('A', 'Z'), ('_', '_'), ('a', 'z')])
  | "xdigit" => some (ranges [('0', '9'), ('A', 'F'), ('a', 'f')])
  | _ => Option.none

/-! ## Sets by name -/

/-- Whether a name opens with `is`, in upper or lower case. -/
def opensWithIs (name : List Char) : Bool :=
  (name.take 2).map Char.toLower = ['i', 's']

/-- A name without its case, its spaces, dashes and underscores, and without `is` before it unless it is `isc`. -/
def looseName (s : String) : String :=
  let loosen (name : List Char) : List Char :=
    (name.filter fun c => c.toNat < 128 && c != ' ' && c != '_' && c != '-').map Char.toLower
  let name := s.toList
  let stripped := if opensWithIs name then loosen (name.drop 2) else loosen name
  if opensWithIs name ∧ stripped = ['c'] then "isc" else String.ofList stripped

/-- The general categories: names, and the two-letter codes that they stand for. -/
def categoryNames : List (List String × List String) := [
  (["c", "other"], ["Cc", "Cf", "Cn", "Co"]), (["cc", "control", "cntrl"], ["Cc"]), (["cf", "format"], ["Cf"]),
  (["cn", "unassigned"], ["Cn"]), (["co", "privateuse"], ["Co"]), (["cs", "surrogate"], []),
  (["l", "letter"], ["Ll", "Lm", "Lo", "Lt", "Lu"]), (["lc", "casedletter"], ["Ll", "Lt", "Lu"]),
  (["ll", "lowercaseletter"], ["Ll"]), (["lm", "modifierletter"], ["Lm"]), (["lo", "otherletter"], ["Lo"]),
  (["lt", "titlecaseletter"], ["Lt"]), (["lu", "uppercaseletter"], ["Lu"]),
  (["m", "mark", "combiningmark"], ["Mc", "Me", "Mn"]), (["mc", "spacingmark"], ["Mc"]),
  (["me", "enclosingmark"], ["Me"]), (["mn", "nonspacingmark"], ["Mn"]), (["n", "number"], ["Nd", "Nl", "No"]),
  (["nd", "decimalnumber", "digit"], ["Nd"]), (["nl", "letternumber"], ["Nl"]), (["no", "othernumber"], ["No"]),
  (["p", "punctuation", "punct"], ["Pc", "Pd", "Pe", "Pf", "Pi", "Po", "Ps"]), (["pc", "connectorpunctuation"], ["Pc"]),
  (["pd", "dashpunctuation"], ["Pd"]), (["pe", "closepunctuation"], ["Pe"]), (["pf", "finalpunctuation"], ["Pf"]),
  (["pi", "initialpunctuation"], ["Pi"]), (["po", "otherpunctuation"], ["Po"]), (["ps", "openpunctuation"], ["Ps"]),
  (["s", "symbol"], ["Sc", "Sk", "Sm", "So"]), (["sc", "currencysymbol"], ["Sc"]), (["sk", "modifiersymbol"], ["Sk"]),
  (["sm", "mathsymbol"], ["Sm"]), (["so", "othersymbol"], ["So"]), (["z", "separator"], ["Zl", "Zp", "Zs"]),
  (["zl", "lineseparator"], ["Zl"]), (["zp", "paragraphseparator"], ["Zp"]), (["zs", "spaceseparator"], ["Zs"])]

/-- The set of a two-letter code. -/
def ofCategory (code : String) : Charset :=
  if code = "Cn" then complement (unions (categories.map fun entry => table entry.2))
  else match categories.lookup code with
    | some ranges => table ranges
    | Option.none => none

/-- The general category of a loose name; `any`, `assigned` and `ascii` count as such. -/
def category? (name : String) : Option Charset :=
  if name = "any" then some all
  else if name = "assigned" then some (complement (ofCategory "Cn"))
  else if name = "ascii" then some (range '\x00' '\x7f')
  else (categoryNames.find? fun entry => entry.1.contains name).map fun entry => unions (entry.2.map ofCategory)

/-- The script of a loose name. The extensions of a script are not known: who asks for them gets the script itself. -/
def script? (name : String) : Option Charset :=
  (scripts.find? fun entry => entry.1.contains name).map fun entry => table entry.2

/-- The property of a loose name. -/
def property? (name : String) : Option Charset :=
  (properties.find? fun entry => entry.1.contains name).map fun entry => table entry.2

/-- The property, category or script of a name. -/
def named? (name : String) : Option Charset :=
  let name := looseName name
  let property := if name = "cf" ∨ name = "sc" ∨ name = "lc" then Option.none else property? name
  property <|> category? name <|> script? name

end Charset

end ComponentAudit.Pattern
