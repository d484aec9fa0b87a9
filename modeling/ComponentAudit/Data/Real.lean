/-!
# Numbers with a fraction

Binary floating point numbers as text: the fewest decimal digits that read back as the number, the nearest to it of those,
written without an exponent and with a point.
-/

namespace ComponentAudit.Data.Real

/-! ## Digits -/

/-- A positive number in quarters of a unit in its last place, `quarters * 2 ^ exponent`, with the interval of what reads
back as it, in the same quarters. -/
structure Interval where
  low : Nat
  quarters : Nat
  high : Nat
  exponent : Int
  /-- The ends of the interval read back as the number. -/
  closed : Bool

/-- The interval of a number with a fraction and an exponent, both as they are stored. Below a power of two, numbers are
half as far apart. -/
def Interval.ofFields (fraction exponent : Nat) : Interval :=
  if exponent = 0 then ⟨4 * fraction - 2, 4 * fraction, 4 * fraction + 2, -1076, fraction % 2 = 0⟩
  else
    let m := Nat.pow 2 52 + fraction
    ⟨if fraction = 0 ∧ exponent ≠ 1 then 4 * m - 1 else 4 * m - 2, 4 * m, 4 * m + 2, (exponent : Int) - 1077, m % 2 = 0⟩

/-- The points next to a number on the grid of the multiples of `10 ^ k`, in multiples, if they read back; the nearer one
comes first. -/
def Interval.onGrid? (i : Interval) (k : Int) : Option Nat :=
  let scale := Nat.pow 2 i.exponent.toNat * Nat.pow 10 (-k).toNat
  let unit := Nat.pow 2 (-i.exponent).toNat * Nat.pow 10 k.toNat
  let below := i.quarters * scale / unit
  let readsBack (c : Nat) : Bool :=
    if i.closed then i.low * scale ≤ c * unit ∧ c * unit ≤ i.high * scale
    else i.low * scale < c * unit ∧ c * unit < i.high * scale
  let fromBelow := i.quarters * scale - below * unit
  let nearer := if 2 * fromBelow ≤ unit then [below, below + 1] else [below + 1, below]
  nearer.find? readsBack

/-- The place of the first digit of a number, as a power of ten. -/
def Interval.magnitude (i : Interval) : Int :=
  let reaches (d : Int) : Bool :=
    Nat.pow 2 (-i.exponent).toNat * Nat.pow 10 d.toNat ≤
      i.quarters * Nat.pow 2 i.exponent.toNat * Nat.pow 10 (-d).toNat
  (((List.range 640).map fun (n : Nat) => 310 - (n : Int)).find? reaches).getD (-330)

/-- The fewest digits that read back as a number, with the power of ten of the last one. -/
def Interval.shortest (i : Interval) : Nat × Int :=
  let top := i.magnitude
  ((List.range 17).findSome? fun (n : Nat) => (i.onGrid? (top - n)).map fun c => (c, top - n)).getD (0, 0)

/-! ## Text -/

/-- Digits without the zeros at their end. -/
def withoutZeros : Nat → Nat → Int → Nat × Int
  | 0, digits, k => (digits, k)
  | fuel + 1, digits, k => if digits ≠ 0 ∧ digits % 10 = 0 then withoutZeros fuel (digits / 10) (k + 1) else (digits, k)

/-- Digits with a power of ten for the last one, written out with a point. -/
def positional (digits : Nat) (k : Int) : String :=
  let (digits, k) := withoutZeros 20 digits k
  let text := Nat.toDigits 10 digits
  let zeros (n : Nat) : List Char := List.replicate n '0'
  String.ofList <|
    if 0 ≤ k then text ++ zeros k.toNat ++ ['.', '0']
    else
      let places := (-k).toNat
      let padded := zeros (places + 1 - text.length) ++ text
      padded.take (padded.length - places) ++ '.' :: padded.drop (padded.length - places)

/-- The text of a number. -/
def shown (x : Float) : String :=
  let bits := x.toBits.toNat
  let sign := if bits / Nat.pow 2 63 = 1 then "-" else ""
  let exponent := bits / Nat.pow 2 52 % Nat.pow 2 11
  let fraction := bits % Nat.pow 2 52
  if exponent = Nat.pow 2 11 - 1 then if fraction = 0 then sign ++ "inf" else "NaN"
  else if exponent = 0 ∧ fraction = 0 then sign ++ "0.0"
  else
    let (digits, k) := (Interval.ofFields fraction exponent).shortest
    sign ++ positional digits k

/-- The number of a decimal, `digits * 10 ^ exponent`; what is too large is infinite, and what is too small is zero. -/
def ofDecimal (negative : Bool) (digits : Nat) (exponent : Int) : Float :=
  let places : Int := (Nat.toDigits 10 digits).length + exponent
  let size : Float :=
    if digits = 0 ∨ places < -400 then 0.0
    else if 400 < places then 1.0 / 0.0
    else Float.ofScientific digits (exponent < 0) exponent.natAbs
  if negative then -size else size

end ComponentAudit.Data.Real
