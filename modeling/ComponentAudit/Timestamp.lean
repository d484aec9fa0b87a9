import ComponentAudit.Text.Blank

/-!
# Points in time

A point in time in the proleptic Gregorian calendar, to the nanosecond, in universal time. It is read from the RFC 3339
notation, blanks and an offset included, and written in the same notation with as many digits of the fraction as it needs
in groups of three.
-/

namespace ComponentAudit

/-- A point in time. A fraction of a second or more is a leap second. -/
structure Timestamp where
  year : Int
  month : Nat
  day : Nat
  hour : Nat
  minute : Nat
  second : Nat
  nanosecond : Nat
  deriving Repr, DecidableEq, Inhabited

namespace Timestamp

/-- Why a text is no point in time. -/
inductive TimeError where
  | outOfRange
  | impossible
  | invalid
  | tooShort
  | tooLong
  deriving Repr, DecidableEq

/-- The text of an error. -/
def TimeError.message : TimeError → String
  | outOfRange => "input is out of range"
  | impossible => "no possible date and time matching input"
  | invalid => "input contains invalid characters"
  | tooShort => "premature end of input"
  | tooLong => "trailing input"

/-- The years that a point in time may lie in. -/
def yearInRange (y : Int) : Bool :=
  -262143 ≤ y && y ≤ 262142

/-- A year with a twenty-ninth of February. -/
def isLeap (y : Int) : Bool :=
  y % 4 = 0 ∧ (y % 100 ≠ 0 ∨ y % 400 = 0)

/-- The number of days of a month. -/
def daysInMonth (y : Int) (m : Nat) : Nat :=
  if m = 2 then (if isLeap y then 29 else 28)
  else if m ∈ [4, 6, 9, 11] then 30 else 31

/-- The number of days from the first of March of the year zero to a date. -/
def dayNumber (y : Int) (m d : Nat) : Int :=
  let y := if m ≤ 2 then y - 1 else y
  let era := y.fdiv 400
  let yearOfEra := y - era * 400
  let month : Int := if m ≤ 2 then m + 9 else m - 3
  let dayOfYear := (153 * month + 2) / 5 + d - 1
  era * 146097 + yearOfEra * 365 + yearOfEra / 4 - yearOfEra / 100 + dayOfYear

/-- The date of a day number. -/
def dateOf (n : Int) : Int × Nat × Nat :=
  let era := n.fdiv 146097
  let dayOfEra := n - era * 146097
  let yearOfEra := (dayOfEra - dayOfEra / 1460 + dayOfEra / 36524 - dayOfEra / 146096) / 365
  let dayOfYear := dayOfEra - (365 * yearOfEra + yearOfEra / 4 - yearOfEra / 100)
  let month := (5 * dayOfYear + 2) / 153
  let day := dayOfYear - (153 * month + 2) / 5 + 1
  let m := if month < 10 then month + 3 else month - 9
  let y := yearOfEra + era * 400
  (if m ≤ 2 then y + 1 else y, m.toNat, day.toNat)

/-- The point in time that many seconds earlier. -/
def earlier (t : Timestamp) (seconds : Int) : Timestamp :=
  let total := ((t.hour * 3600 + t.minute * 60 + t.second : Nat) : Int) - seconds
  let (y, m, d) := dateOf (dayNumber t.year t.month t.day + total.fdiv 86400)
  let rest := (total.fmod 86400).toNat
  { t with
    year := y
    month := m
    day := d
    hour := rest / 3600
    minute := rest / 60 % 60
    second := rest % 60 }

/-- The point in time so many seconds, and a part of one, after the start of the year 1970. -/
def sinceEpoch (seconds : Int) (nanosecond : Nat) : Timestamp :=
  { earlier ⟨1970, 1, 1, 0, 0, 0, 0⟩ (-seconds) with nanosecond }

/-- A number of one digit or more, at most `width` of them, and what follows it. -/
def number (width : Nat) (s : List Char) : Except TimeError (Nat × List Char) :=
  match s with
  | [] => .error .tooShort
  | c :: _ =>
    if c.isDigit then
      let digits := (s.take width).takeWhile Char.isDigit
      .ok (digits.foldl (fun n c => 10 * n + (c.toNat - 48)) 0, s.drop digits.length)
    else .error .invalid

/-- A number within bounds, after blanks. -/
def bounded (low high : Nat) (s : List Char) : Except TimeError (Nat × List Char) := do
  let (n, rest) ← number 2 (Text.trimStart s)
  if low ≤ n ∧ n ≤ high then return (n, rest) else throw .outOfRange

/-- A character, after blanks. -/
def mark (c : Char) (s : List Char) : Except TimeError (List Char) :=
  match Text.trimStart s with
  | [] => .error .tooShort
  | d :: rest => if c = d then .ok rest else .error .invalid

/-- A number of any length that fits a signed word of 64 bits. -/
def word (s : List Char) : Except TimeError (Nat × List Char) := do
  let (n, rest) ← number s.length s
  if n < 0x8000000000000000 then return (n, rest) else throw .outOfRange

/-- A year of up to four digits, or of any length after a sign. -/
def yearPart (s : List Char) : Except TimeError (Int × List Char) := do
  let (y, rest) ← match Text.trimStart s with
    | '-' :: rest => do
      let (n, rest) ← word rest
      pure (-(n : Int), rest)
    | '+' :: rest => do
      let (n, rest) ← word rest
      pure ((n : Int), rest)
    | s => do
      let (n, rest) ← number 4 s
      pure ((n : Int), rest)
  if -0x80000000 ≤ y ∧ y < 0x80000000 then return (y, rest) else throw .outOfRange

/-- The fraction of a second, if there is one, in nanoseconds; digits beyond the ninth are passed over. -/
def fractionPart (s : List Char) : Except TimeError (Nat × List Char) :=
  match s with
  | '.' :: rest => do
    let digits := (rest.take 9).takeWhile Char.isDigit
    let (n, after) ← number 9 rest
    return (n * Nat.pow 10 (9 - digits.length), after.dropWhile Char.isDigit)
  | s => .ok (0, s)

/-- Two digits. -/
def twoDigits (s : List Char) : Except TimeError (Nat × List Char) :=
  match s with
  | a :: b :: rest =>
    if a.isDigit ∧ b.isDigit then .ok ((a.toNat - 48) * 10 + (b.toNat - 48), rest) else .error .invalid
  | [c] => .error (if c.utf8Size = 1 then .tooShort else .invalid)
  | [] => .error .tooShort

/-- The offset from universal time in seconds. -/
def offsetPart (s : List Char) : Except TimeError (Int × List Char) := do
  let (negative, rest) ← match s with
    | [] => throw .tooShort
    | c :: rest =>
      if c = '+' then pure (false, rest)
      else if c = '-' ∨ c = '\u2212' then pure (true, rest)
      else throw .invalid
  let (hours, rest) ← twoDigits rest
  let (minutes, rest) ← twoDigits (rest.dropWhile fun c => c = ':' ∨ Text.isBlank c)
  if minutes < 60 then
    let seconds : Int := hours * 3600 + minutes * 60
    return (if negative then -seconds else seconds, rest)
  else throw .outOfRange

/-- The zone: a letter or a word for universal time, or an offset. -/
def zonePart (s : List Char) : Except TimeError (Int × List Char) :=
  if (s.take 3).map Char.toUpper = ['U', 'T', 'C'] then .ok (0, s.drop 3)
  else match s with
    | c :: rest => if c = 'Z' ∨ c = 'z' then .ok (0, rest) else offsetPart s
    | [] => .error .tooShort

/-- Reads a point in time. -/
def parse (s : List Char) : Except TimeError Timestamp := do
  let (year, s) ← yearPart s
  let s ← mark '-' s
  let (month, s) ← bounded 1 12 s
  let s ← mark '-' s
  let (day, s) ← bounded 1 31 s
  let s ← match s with
    | [] => throw .tooShort
    | c :: rest => if c = 't' ∨ c = 'T' ∨ c = ' ' then pure rest else throw .invalid
  let (hour, s) ← bounded 0 23 s
  let s ← mark ':' s
  let (minute, s) ← bounded 0 59 s
  let s ← mark ':' s
  let (second, s) ← bounded 0 60 s
  let (fraction, s) ← fractionPart s
  let (offset, s) ← zonePart (Text.trimStart s)
  if Text.trimStart s ≠ [] then throw .tooLong
  if !yearInRange year ∨ daysInMonth year month < day then throw .outOfRange
  if offset ≤ -86400 ∨ 86400 ≤ offset then throw .outOfRange
  let leap := second = 60
  let t : Timestamp :=
    { year, month, day, hour, minute, second := if leap then 59 else second
      nanosecond := if leap then fraction + 1000000000 else fraction }
  let t := if offset = 0 then t else t.earlier offset
  if yearInRange t.year then return t else throw .impossible

/-- A number in decimal with at least that many digits. -/
def padded (width n : Nat) : String :=
  let digits := toString n
  String.ofList (List.replicate (width - digits.length) '0') ++ digits

/-- The year, with a sign where it has not four digits. -/
def yearText (y : Int) : String :=
  if 0 ≤ y ∧ y ≤ 9999 then padded 4 y.toNat
  else (if y < 0 then "-" else "+") ++ padded 4 y.natAbs

/-- Date and time of day to the second, with a text between them. -/
def clockText (t : Timestamp) (between : String) : String :=
  s!"{yearText t.year}-{padded 2 t.month}-{padded 2 t.day}{between}" ++
  s!"{padded 2 t.hour}:{padded 2 t.minute}:{padded 2 (t.second + t.nanosecond / 1000000000)}"

/-- The fraction of a second in three, six or nine digits, or nothing. -/
def fractionText (nanosecond : Nat) : String :=
  if nanosecond = 0 then ""
  else if nanosecond % 1000000 = 0 then "." ++ padded 3 (nanosecond / 1000000)
  else if nanosecond % 1000 = 0 then "." ++ padded 6 (nanosecond / 1000)
  else "." ++ padded 9 nanosecond

/-- The point in time in RFC 3339 notation. -/
def text (t : Timestamp) : String :=
  t.clockText "T" ++ fractionText (t.nanosecond % 1000000000) ++ "Z"

/-- The point in time to the second, for people. -/
def shown (t : Timestamp) : String :=
  t.clockText " " ++ " UTC"

end Timestamp

end ComponentAudit
