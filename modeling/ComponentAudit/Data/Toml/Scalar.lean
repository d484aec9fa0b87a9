import ComponentAudit.Data.Real
import ComponentAudit.Data.Value

/-!
# Scalars of TOML documents

Strings, numbers, truth values, dates and times, as TOML 1.0 writes them.
-/

namespace ComponentAudit.Data.Toml

/-- A step of reading a document. It fails with the number of characters that are left where reading cannot go on. -/
abbrev Reader := StateT (List Char) (Except Nat)

/-- Reading fails where it stands; of two ways that fail, the one that gets further counts. -/
instance : Alternative Reader where
  failure := fun rest => .error rest.length
  orElse first second := fun rest =>
    match first rest with
    | .ok r => .ok r
    | .error left => (second () rest).mapError (min left)

namespace Reader

/-- The next character, if there is one. -/
def peek : Reader (Option Char) := do
  return (← get).head?

/-- Takes the next character. -/
def next : Reader Char := do
  match ← get with
  | c :: rest => set rest; return c
  | [] => failure

/-- Takes the next character, which has to be of some kind. -/
def one (p : Char → Bool) : Reader Char := do
  match ← peek with
  | some c => if p c then next else failure
  | none => failure

/-- A step whose failures are those of its start. -/
def whole {α : Type} (step : Reader α) : Reader α := fun rest =>
  (step rest).mapError fun _ => rest.length

/-- Takes a text, which has to stand next. -/
def expect (text : String) : Reader Unit := do
  let rest ← get
  if text.toList.isPrefixOf rest then set (rest.drop text.length) else failure

/-- Whether a text stands next; it is taken if it does. -/
def skip? (text : String) : Reader Bool := do
  let rest ← get
  if text.toList.isPrefixOf rest then
    set (rest.drop text.length)
    return true
  else return false

/-- Takes characters as long as they are of some kind. -/
def takeWhile (p : Char → Bool) : Reader (List Char) := do
  let rest ← get
  set (rest.dropWhile p)
  return rest.takeWhile p

/-- Takes steps until one says that it is the last, but no more than some number. -/
def untilNone {α : Type} (step : Reader (Option α)) : Nat → Reader (List α)
  | 0 => failure
  | n + 1 => do
    match ← step with
    | none => return []
    | some a => return a :: (← untilNone step n)

/-- Takes steps until one says that it is the last. Each of them takes a character, so there are no more than there are
characters. -/
def repeated {α : Type} (step : Reader (Option α)) : Reader (List α) := do
  untilNone step ((← get).length + 1)

end Reader

open Reader

/-! ## Blanks -/

/-- A blank within a line. -/
def isSpacing (c : Char) : Bool :=
  c == ' ' || c == '\t'

/-- A character that may stand within a line: a tab, or one that is no control character. -/
def isPrintable (c : Char) : Bool :=
  c == '\t' || (0x20 ≤ c.toNat && c.toNat != 0x7F)

/-- Takes blanks within a line. -/
def spacing : Reader Unit := do
  discard (takeWhile isSpacing)

/-- Takes a line feed, with or without a carriage return before it. -/
def newline : Reader Unit :=
  expect "\n" <|> expect "\r\n"

/-- Takes a remark, up to the end of its line. -/
def remark : Reader Unit := do
  expect "#"
  discard (takeWhile isPrintable)

/-- Takes blanks, line ends and remarks. -/
def layout : Reader Unit := do
  let step : Reader (Option Unit) := do
    match ← peek with
    | some '#' => remark; newline; return some ()
    | some c =>
      if isSpacing c then spacing; return some ()
      else if c == '\n' || c == '\r' then newline; return some ()
      else return none
    | none => return none
  discard (repeated step)

/-! ## Strings -/

/-- The value of a hexadecimal digit. -/
def hexDigit : Reader Nat := do
  let c ← one fun c => c.isDigit || ('a' ≤ c && c ≤ 'f') || ('A' ≤ c && c ≤ 'F')
  return if c ≤ '9' then c.toNat - 48 else if 'a' ≤ c then c.toNat - 87 else c.toNat - 55

/-- The character of some hexadecimal digits. -/
def hexChar (digits : Nat) : Reader Char := do
  let values ← (List.replicate digits hexDigit).mapM id
  let n := values.foldl (fun n d => 16 * n + d) 0
  if n.isValidChar then return Char.ofNat n else failure

/-- The character that is written after a backslash. -/
def escaped : Reader Char := do
  match ← next with
  | 'b' => return '\x08'
  | 't' => return '\t'
  | 'n' => return '\n'
  | 'f' => return '\x0c'
  | 'r' => return '\r'
  | '"' => return '"'
  | '\\' => return '\\'
  | 'u' => hexChar 4
  | 'U' => hexChar 8
  | _ => failure

/-- What stands between double quotes on one line. -/
def basicString : Reader String := do
  expect "\""
  let step : Reader (Option Char) := do
    match ← peek with
    | some '"' => discard next; return none
    | some '\\' => discard next; some <$> whole escaped
    | _ => some <$> one isPrintable
  return String.ofList (← repeated step)

/-- What stands between single quotes on one line. -/
def literalString : Reader String := do
  expect "'"
  let text ← takeWhile fun c => isPrintable c && c != '\''
  expect "'"
  return String.ofList text

/-- A piece of text, and whether it is the last one. -/
abbrev Piece := List Char × Bool

/-- Quotes within text between threefold quotes: one or two stand for themselves, and three to five end the text, the first
ones standing for themselves. -/
def quotes (quote : Char) : Reader Piece := do
  let run ← takeWhile (· == quote)
  if run.length < 3 then return (run, false)
  else if run.length ≤ 5 then return (run.drop 3, true)
  else failure

/-- Takes pieces of text up to the last one. -/
def pieces (step : Reader Piece) : Nat → Reader (List Char)
  | 0 => failure
  | n + 1 => do
    let (text, isLast) ← step
    if isLast then return text else return text ++ (← pieces step n)

/-- Text between threefold quotes. A line end right after the first ones is left out; the others count as line feeds. -/
def multilineString (quote : Char) (piece : Char → Reader (List Char)) : Reader String := do
  expect (String.ofList [quote, quote, quote])
  discard (optional newline)
  let step : Reader Piece := do
    match ← peek with
    | none => failure
    | some c =>
      if c == quote then quotes quote
      else if c == '\n' || c == '\r' then
        newline
        return (['\n'], false)
      else return (← piece c, false)
  return String.ofList (← pieces step ((← get).length + 1))

/-- A line end after a backslash, with all blanks and line ends after it. -/
def foldedLine : Reader Unit := do
  spacing
  newline
  discard (takeWhile fun c => isSpacing c || c == '\n' || c == '\r')

/-- A piece of text between threefold double quotes. -/
def basicPiece (c : Char) : Reader (List Char) := do
  discard next
  if c == '\\' then (foldedLine *> pure []) <|> ((fun c => [c]) <$> escaped)
  else if isPrintable c then return [c]
  else failure

/-- A piece of text between threefold single quotes. -/
def literalPiece (_ : Char) : Reader (List Char) := do
  return [← one isPrintable]

/-- A string. -/
def string : Reader String := do
  let rest ← get
  if "\"\"\"".toList.isPrefixOf rest then multilineString '"' basicPiece
  else if "'''".toList.isPrefixOf rest then multilineString '\'' literalPiece
  else basicString <|> literalString

/-! ## Numbers -/

/-- Digits, with single underscores between them. -/
def digits (isDigit : Char → Bool) : Reader (List Char) := do
  let first ← one isDigit
  let step : Reader (Option Char) := optional do
    discard (optional (expect "_"))
    one isDigit
  return first :: (← repeated step)

/-- The number that digits to a base stand for. -/
def valueOf (base : Nat) (text : List Char) : Nat :=
  text.foldl (fun n c =>
    let d := if c ≤ '9' then c.toNat - 48 else if 'a' ≤ c then c.toNat - 87 else c.toNat - 55
    base * n + d) 0

/-- A sign, if there is one; whether it is a minus. -/
def sign : Reader Bool := do
  if ← skip? "-" then return true
  else
    discard (skip? "+")
    return false

/-- The digits of a decimal number, which has no zeros before it. -/
def wholeDigits : Reader (List Char) := do
  if ← skip? "0" then return ['0'] else
    match ← peek with
    | some c => if '1' ≤ c ∧ c ≤ '9' then digits Char.isDigit else failure
    | none => failure

/-- A hexadecimal digit. -/
def isHexDigit (c : Char) : Bool :=
  c.isDigit || ('a' ≤ c && c ≤ 'f') || ('A' ≤ c && c ≤ 'F')

/-- A whole number that fits in 64 bits. -/
def integer : Reader Value := do
  let n : Int ←
    if ← skip? "0x" then (fun t => (valueOf 16 t : Int)) <$> digits isHexDigit
    else if ← skip? "0o" then (fun t => (valueOf 8 t : Int)) <$> digits fun c => '0' ≤ c ∧ c ≤ '7'
    else if ← skip? "0b" then (fun t => (valueOf 2 t : Int)) <$> digits fun c => c == '0' || c == '1'
    else do
      let negative ← sign
      let n := valueOf 10 (← wholeDigits)
      pure (if negative then -(n : Int) else n)
  if -0x8000000000000000 ≤ n ∧ n < 0x8000000000000000 then return .int n else failure

/-- The exponent of a number. -/
def exponent : Reader Int := do
  discard (one fun c => c == 'e' || c == 'E')
  let negative ← sign
  let n := valueOf 10 (← digits Char.isDigit)
  return if negative then -(n : Int) else n

/-- A number with a fraction or an exponent; it is not too large to be finite, unless it is negative. -/
def float : Reader Value := do
  let negative ← sign
  let whole ← wholeDigits
  let fraction ← optional do
    expect "."
    digits Char.isDigit
  let power ← if fraction.isSome then optional exponent else some <$> exponent
  let places := fraction.getD []
  let x := Real.ofDecimal negative (valueOf 10 (whole ++ places)) (power.getD 0 - places.length)
  if !negative && x == 1.0 / 0.0 then failure
  else return .real (Real.shown x)

/-- A number that is not finite. -/
def notFinite : Reader Value := do
  let negative ← sign
  if ← skip? "inf" then return .real (if negative then "-inf" else "inf")
  else
    expect "nan"
    return .real "NaN"

/-! ## Dates and times -/

/-- A number of so many digits, within bounds, as it is written. -/
def field (width low high : Nat) : Reader (List Char) := whole do
  let text ← (List.replicate width (one Char.isDigit)).mapM id
  let n := valueOf 10 text
  if low ≤ n ∧ n ≤ high then return text else failure

/-- A year with a twenty-ninth of February. -/
def isLeap (y : Nat) : Bool :=
  y % 4 = 0 ∧ (y % 100 ≠ 0 ∨ y % 400 = 0)

/-- The number of days of a month. -/
def daysOf (y m : Nat) : Nat :=
  if m = 2 then (if isLeap y then 29 else 28) else if m ∈ [4, 6, 9, 11] then 30 else 31

/-- A date. -/
def date : Reader (List Char) := do
  let year ← field 4 0 9999
  expect "-"
  let month ← field 2 1 12
  expect "-"
  let day ← field 2 1 (daysOf (valueOf 10 year) (valueOf 10 month))
  return year ++ '-' :: month ++ '-' :: day

/-- A time of day, its fraction cut after nine digits. -/
def time : Reader (List Char) := do
  let hour ← field 2 0 23
  expect ":"
  let minute ← field 2 0 59
  expect ":"
  let second ← field 2 0 60
  let fraction ← optional do
    expect "."
    return (← one Char.isDigit) :: (← takeWhile Char.isDigit)
  let kept := (((fraction.getD []).take 9).reverse.dropWhile (· == '0')).reverse
  return hour ++ ':' :: minute ++ ':' :: second ++ (if kept.isEmpty then [] else '.' :: kept)

/-- An offset from universal time. -/
def offset : Reader (List Char) := do
  let c ← next
  if c == 'Z' || c == 'z' then return ['Z']
  else if c == '+' || c == '-' then
    let hour ← field 2 0 23
    expect ":"
    let minute ← field 2 0 59
    let isZero := (hour ++ minute).all (· == '0')
    return (if isZero then '+' else c) :: hour ++ ':' :: minute
  else failure

/-- A date with or without a time and an offset, or a time. -/
def moment : Reader Value := do
  let dated : Reader (List Char) := do
    let day ← date
    let rest ← optional do
      discard (one fun c => c == 'T' || c == 't' || c == ' ')
      let hour ← time
      return 'T' :: hour ++ ((← optional offset).getD [])
    return day ++ rest.getD []
  return .moment (String.ofList (← dated <|> time))

/-- A scalar. -/
def scalar : Reader Value := do
  match ← peek with
  | some '"' | some '\'' => .text <$> string
  | some 't' => expect "true" *> pure (.bool true)
  | some 'f' => expect "false" *> pure (.bool false)
  | _ => moment <|> float <|> integer <|> notFinite

end ComponentAudit.Data.Toml
