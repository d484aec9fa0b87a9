import Mathlib.Data.List.Induction
import Mathlib.Data.List.TakeWhile
import ComponentAudit.Proofs.Calendar

/-!
# Points in time are read as they are written

Each part of a point in time is read back from its text, whatever follows it that is no digit (`Timestamp.number_digits`, and
from it one lemma for each part). Put together, a point in time of the calendar is read back from its text
(`Timestamp.parse_text`), and whatever is read from any text is one of the calendar (`Timestamp.valid_of_parse`).
-/

namespace ComponentAudit

/-! ## Steps that may fail -/

section Bind

variable {ε α β : Type} {x : Except ε α} {f : α → Except ε β} {a : α} {b : β}

theorem ok_bind (a : α) (f : α → Except ε β) : (Except.ok a >>= f) = f a :=
  rfl

theorem of_bind (h : (x >>= f) = .ok b) : ∃ a, x = .ok a ∧ f a = .ok b := by
  cases x with
  | error e => cases h
  | ok a => exact ⟨a, rfl, h⟩

theorem bind_of (hx : x = .ok a) (h : f a = .ok b) : (x >>= f) = .ok b := by
  rw [hx]
  exact h

/-- What comes after a check that failed otherwise. -/
theorem of_guard {c : Prop} [Decidable c] {y : Except ε β} (h : (if c then y else f a) = .ok b) (hy : y ≠ .ok b) :
    ¬c ∧ f a = .ok b := by
  split at h
  · exact absurd h hy
  · exact ⟨‹_›, h⟩

end Bind

namespace Timestamp

open Nat (ofDigitChars toDigits)

variable {width n : Nat} {digits rest : List Char}

/-! ## Numbers -/

/-- The text does not go on with a digit. -/
def EndsNumber (rest : List Char) : Prop :=
  ∀ c, rest.head? = some c → c.isDigit = false

/-- Digits that say a number. -/
structure Says (digits : List Char) (n : Nat) : Prop where
  nonempty : digits ≠ []
  isDigit : ∀ c ∈ digits, c.isDigit = true
  value : ofDigitChars 10 digits 0 = n

theorem takeWhile_digits (h : ∀ c ∈ digits, c.isDigit = true) (hrest : EndsNumber rest) :
    (digits ++ rest).takeWhile Char.isDigit = digits := by
  rw [List.takeWhile_append_of_pos h]
  cases rest with
  | nil => rw [List.takeWhile_nil, List.append_nil]
  | cons c rest => rw [List.takeWhile_cons_of_neg (by simp [hrest c rfl]), List.append_nil]

/-- Of some digits, and what follows them, a number takes the digits, if they are as many as it may take, or fewer and no
digit follows. -/
theorem takeWhile_take_digits (h : ∀ c ∈ digits, c.isDigit = true) (hlength : digits.length ≤ width)
    (hend : digits.length = width ∨ EndsNumber rest) : ((digits ++ rest).take width).takeWhile Char.isDigit = digits := by
  rw [List.take_append, List.take_of_length_le hlength]
  refine takeWhile_digits h fun c hc => ?_
  rcases hend with hfull | hend
  · rw [hfull, Nat.sub_self, List.take_zero] at hc
    cases hc
  · have hhead : ¬width - digits.length = 0 ∧ rest.head? = some c := by simpa [List.head?_take] using hc
    exact hend c hhead.2

/-- Digits are read as the number that they say. -/
theorem number_digits (h : Says digits n) (hlength : digits.length ≤ width) (hend : digits.length = width ∨ EndsNumber rest) :
    number width (digits ++ rest) = .ok (n, rest) := by
  have htaken := takeWhile_take_digits h.isDigit hlength hend
  have hvalue : digits.foldl (fun n c => 10 * n + (c.toNat - 48)) 0 = n := by
    rw [← h.value, Nat.ofDigitChars_eq_foldl]
    rfl
  obtain ⟨c, others, rfl⟩ := List.exists_cons_of_ne_nil h.nonempty
  rw [List.cons_append] at htaken ⊢
  rw [number.eq_def]
  simp only [h.isDigit c (List.mem_cons_self ..), if_true, htaken, hvalue]
  rw [← List.cons_append, List.drop_left]

theorem toList_padded (width n : Nat) : (padded width n).toList =
    List.replicate (width - (toDigits 10 n).length) '0' ++ toDigits 10 n := by
  rw [padded, String.toList_append, String.toList_ofList, Nat.toString_eq_repr, ← String.length_toList, Nat.toList_repr]

/-- A number says itself, padded or not. -/
theorem says_padded (width n : Nat) : Says (padded width n).toList n := by
  rw [toList_padded]
  refine ⟨List.append_ne_nil_of_right_ne_nil _ Nat.toDigits_ne_nil, ?_, ?_⟩
  · intro c hc
    rcases List.mem_append.1 hc with hzero | hdigit
    · rw [List.eq_of_mem_replicate hzero]
      rfl
    · exact Nat.isDigit_of_mem_toDigits (by decide) (by decide) hdigit
  · rw [Nat.ofDigitChars_append, Nat.ofDigitChars_replicate_zero, Nat.mul_zero,
      Nat.ofDigitChars_toDigits (by decide) (by decide)]

/-- A number that fits is padded to just the width. -/
theorem length_padded (hwidth : 0 < width) (h : n < 10 ^ width) : (padded width n).toList.length = width := by
  rw [toList_padded, List.length_append, List.length_replicate]
  exact Nat.sub_add_cancel ((Nat.length_toDigits_le_iff (by decide) hwidth).2 h)

/-- A number that fits is read back from its padded text, whatever follows. -/
theorem number_padded (hwidth : 0 < width) (h : n < 10 ^ width) :
    number width ((padded width n).toList ++ rest) = .ok (n, rest) :=
  number_digits (says_padded width n) (length_padded hwidth h).le (Or.inl (length_padded hwidth h))

/-! ## The parts of a point in time -/

theorem trimStart_cons {c : Char} (h : Text.isBlank c = false) : Text.trimStart (c :: rest) = c :: rest := by
  rw [Text.trimStart, List.dropWhile_cons_of_neg (by simp [h])]

theorem isBlank_of_isDigit {c : Char} (h : c.isDigit = true) : Text.isBlank c = false := by
  rw [Char.isDigit_iff_toNat] at h
  have hlow : '0'.toNat = 48 := rfl
  have hhigh : '9'.toNat = 57 := rfl
  simp only [Text.isBlank, Bool.or_eq_false_iff, Bool.and_eq_false_iff, decide_eq_false_iff_not, beq_eq_false_iff_ne]
  omega

/-- Nothing is cut off in front of a number. -/
theorem trimStart_digits (h : Says digits n) : Text.trimStart (digits ++ rest) = digits ++ rest := by
  obtain ⟨c, others, rfl⟩ := List.exists_cons_of_ne_nil h.nonempty
  exact trimStart_cons (isBlank_of_isDigit (h.isDigit c (List.mem_cons_self ..)))

theorem mark_cons {c : Char} (h : Text.isBlank c = false) : mark c (c :: rest) = .ok rest := by
  rw [mark, trimStart_cons h]
  exact if_pos rfl

/-- A number of two digits within bounds is read back. -/
theorem bounded_padded {low high : Nat} (hlow : low ≤ n) (hhigh : n ≤ high) (h : n < 100) :
    bounded low high ((padded 2 n).toList ++ rest) = .ok (n, rest) := by
  rw [bounded, trimStart_digits (says_padded 2 n), number_padded (by decide) h]
  exact if_pos ⟨hlow, hhigh⟩

/-- A number that fits a word is read back, if it ends. -/
theorem word_digits (h : Says digits n) (hn : n < 0x8000000000000000) (hend : EndsNumber rest) :
    word (digits ++ rest) = .ok (n, rest) := by
  have hlength : digits.length ≤ (digits ++ rest).length := by
    rw [List.length_append]
    exact Nat.le_add_right _ _
  rw [word, number_digits h hlength (Or.inr hend)]
  exact if_pos hn

/-- A year in range is read back. -/
theorem yearPart_yearText {y : Int} (hy : yearInRange y = true) (hrest : EndsNumber rest) :
    yearPart ((yearText y).toList ++ rest) = .ok (y, rest) := by
  have hbounds : -262143 ≤ y ∧ y ≤ 262142 := by simpa [yearInRange] using hy
  have hsigned : word ((padded 4 y.natAbs).toList ++ rest) = .ok (y.natAbs, rest) :=
    word_digits (says_padded 4 _) (by omega) hrest
  unfold yearText
  split
  · rename_i hplain
    have hsays := says_padded 4 y.toNat
    have hnumber : number 4 ((padded 4 y.toNat).toList ++ rest) = .ok (y.toNat, rest) :=
      number_padded (by decide) (by omega)
    obtain ⟨c, others, hdigits⟩ := List.exists_cons_of_ne_nil hsays.nonempty
    have hc : c.isDigit = true := hsays.isDigit c (hdigits ▸ List.mem_cons_self ..)
    rw [yearPart, trimStart_digits hsays]
    rw [hdigits, List.cons_append] at hnumber ⊢
    split
    next heq =>
      rw [(List.cons.inj heq).1] at hc
      cases hc
    next heq =>
      rw [(List.cons.inj heq).1] at hc
      cases hc
    next =>
      rw [hnumber, ok_bind]
      simp only [pure_bind]
      rw [if_pos (by omega), Int.toNat_of_nonneg hplain.1]
      rfl
  · have hminus : "-".toList = ['-'] := rfl
    have hplus : "+".toList = ['+'] := rfl
    rw [String.toList_append]
    split
    · rw [hminus, List.append_assoc, List.singleton_append, yearPart, trimStart_cons (by decide)]
      simp only [hsigned, ok_bind, pure_bind]
      rw [if_pos (by omega), Int.ofNat_natAbs_of_nonpos (by omega), Int.neg_neg]
      rfl
    · rw [hplus, List.append_assoc, List.singleton_append, yearPart, trimStart_cons (by decide)]
      split
      next heq => exact absurd (List.cons.inj heq).1 (by decide)
      next heq =>
        rw [← (List.cons.inj heq).2, hsigned, ok_bind]
        simp only [pure_bind]
        rw [if_pos (by omega), Int.natAbs_of_nonneg (by omega)]
        rfl
      next hnot => exact absurd rfl (hnot _)

/-- A fraction of as many digits is read in nanoseconds. -/
theorem fractionPart_padded {k : Nat} (hk : 0 < k ∧ k ≤ 9) (h : n < 10 ^ k) (hend : EndsNumber rest) :
    fractionPart ('.' :: ((padded k n).toList ++ rest)) = .ok (n * 10 ^ (9 - k), rest) := by
  have hlength := length_padded hk.1 h
  have hle : (padded k n).toList.length ≤ 9 := hlength.le.trans hk.2
  have htaken := takeWhile_take_digits (says_padded k n).isDigit hle (Or.inr hend)
  have hnumber : number 9 ((padded k n).toList ++ rest) = .ok (n, rest) := number_digits (says_padded k n) hle (Or.inr hend)
  have hdropped : rest.dropWhile Char.isDigit = rest := by
    cases rest with
    | nil => rfl
    | cons c rest => exact List.dropWhile_cons_of_neg (by simp [hend c rfl])
  rw [fractionPart]
  simp only [htaken, hnumber, hlength, hdropped, ok_bind]
  rfl

theorem endsNumber_cons {c : Char} (h : c.isDigit = false) : EndsNumber (c :: rest) := by
  rintro d hd
  cases hd
  exact h

/-- The fraction of a second is read back. -/
theorem fractionPart_fractionText (h : n < 1000000000) :
    fractionPart ((fractionText n).toList ++ 'Z' :: rest) = .ok (n, 'Z' :: rest) := by
  have hend : EndsNumber ('Z' :: rest) := endsNumber_cons (by decide)
  have hdot : ".".toList = ['.'] := rfl
  have hdotted : ∀ k m : Nat, 0 < k ∧ k ≤ 9 → m < 10 ^ k → m * 10 ^ (9 - k) = n →
      fractionPart (("." ++ padded k m).toList ++ 'Z' :: rest) = .ok (n, 'Z' :: rest) := by
    rintro k m hk hm rfl
    rw [String.toList_append, hdot, List.append_assoc, List.singleton_append, fractionPart_padded hk hm hend]
  unfold fractionText
  split
  · rename_i hzero
    rw [hzero]
    rfl
  · split
    · exact hdotted 3 _ (by decide) (by omega) (by omega)
    · split
      · exact hdotted 6 _ (by decide) (by omega) (by omega)
      · exact hdotted 9 n (by decide) (by omega) (by omega)

/-- What the parts of a text say, each read from where the one before it ended. -/
inductive Reads (s : List Char) : (year : Int) → (month day hour minute second fraction : Nat) → (offset : Int) → Prop where
  | parts {year offset : Int} {month day hour minute second fraction : Nat} {s₁ s₂ s₃ s₄ s₅ s₆ s₇ s₈ s₉ s₁₀ s₁₁ s₁₂ : List Char}
      {c : Char} (hyear : yearPart s = .ok (year, s₁)) (hdash : mark '-' s₁ = .ok s₂)
      (hmonth : bounded 1 12 s₂ = .ok (month, s₃)) (hdash' : mark '-' s₃ = .ok s₄)
      (hday : bounded 1 31 s₄ = .ok (day, c :: s₅)) (hbetween : c = 't' ∨ c = 'T' ∨ c = ' ')
      (hhour : bounded 0 23 s₅ = .ok (hour, s₆)) (hcolon : mark ':' s₆ = .ok s₇)
      (hminute : bounded 0 59 s₇ = .ok (minute, s₈)) (hcolon' : mark ':' s₈ = .ok s₉)
      (hsecond : bounded 0 60 s₉ = .ok (second, s₁₀)) (hfraction : fractionPart s₁₀ = .ok (fraction, s₁₁))
      (hzone : zonePart (Text.trimStart s₁₁) = .ok (offset, s₁₂)) (hend : Text.trimStart s₁₂ = []) :
      Reads s year month day hour minute second fraction offset

/-- A point in time by the clock of a place. The sixtieth second of a minute belongs to the one before it. -/
def ofClock (year : Int) (month day hour minute second fraction : Nat) : Timestamp where
  year := year
  month := month
  day := day
  hour := hour
  minute := minute
  second := if second = 60 then 59 else second
  nanosecond := if second = 60 then fraction + 1000000000 else fraction

/-- The point in time by a clock that is ahead of universal time by some seconds. -/
def ahead (t : Timestamp) (offset : Int) : Timestamp :=
  if offset = 0 then t else t.earlier offset

/-- A text is read as a point in time, if its parts make a date, and its year, before and after the shift, and its offset are
in range. -/
theorem parse_eq_ok_iff {s : List Char} {t : Timestamp} : parse s = .ok t ↔
    ∃ year month day hour minute second fraction offset, Reads s year month day hour minute second fraction offset ∧
      ¬((!yearInRange year) = true ∨ daysInMonth year month < day) ∧ ¬(offset ≤ -86400 ∨ 86400 ≤ offset) ∧
      yearInRange t.year = true ∧ t = (ofClock year month day hour minute second fraction).ahead offset := by
  constructor
  · intro h
    unfold parse at h
    obtain ⟨⟨year, s₁⟩, hyear, h⟩ := of_bind h
    obtain ⟨s₂, hdash, h⟩ := of_bind h
    obtain ⟨⟨month, s₃⟩, hmonth, h⟩ := of_bind h
    obtain ⟨s₄, hdash', h⟩ := of_bind h
    obtain ⟨⟨day, s₅⟩, hday, h⟩ := of_bind h
    cases s₅ with
    | nil => cases h
    | cons c s₅ =>
      by_cases hbetween : c = 't' ∨ c = 'T' ∨ c = ' '
      case neg =>
        replace h := (if_neg hbetween).symm.trans h
        cases h
      replace h := (if_pos hbetween).symm.trans h
      obtain ⟨s₅', hs₅, h⟩ := of_bind h
      cases hs₅
      obtain ⟨⟨hour, s₆⟩, hhour, h⟩ := of_bind h
      obtain ⟨s₇, hcolon, h⟩ := of_bind h
      obtain ⟨⟨minute, s₈⟩, hminute, h⟩ := of_bind h
      obtain ⟨s₉, hcolon', h⟩ := of_bind h
      obtain ⟨⟨second, s₁₀⟩, hsecond, h⟩ := of_bind h
      obtain ⟨⟨fraction, s₁₁⟩, hfraction, h⟩ := of_bind h
      obtain ⟨⟨offset, s₁₂⟩, hzone, h⟩ := of_bind h
      obtain ⟨hend, h⟩ := of_guard h nofun
      obtain ⟨hdate, h⟩ := of_guard h nofun
      obtain ⟨hoffset, h⟩ := of_guard h nofun
      by_cases hrange : yearInRange ((ofClock year month day hour minute second fraction).ahead offset).year = true
      case neg =>
        replace h := (if_neg hrange).symm.trans h
        cases h
      replace h := (if_pos hrange).symm.trans h
      cases h
      exact ⟨year, month, day, hour, minute, second, fraction, offset,
        .parts hyear hdash hmonth hdash' hday hbetween hhour hcolon hminute hcolon' hsecond hfraction hzone (not_not.1 hend), hdate,
        hoffset, hrange, rfl⟩
  · rintro ⟨year, month, day, hour, minute, second, fraction, offset, hreads, hdate, hoffset, hrange, rfl⟩
    obtain ⟨hyear, hdash, hmonth, hdash', hday, hbetween, hhour, hcolon, hminute, hcolon', hsecond, hfraction, hzone, hend⟩ :=
      hreads
    refine bind_of hyear (bind_of hdash (bind_of hmonth (bind_of hdash' (bind_of hday ((if_pos hbetween).trans ?_)))))
    refine bind_of rfl (bind_of hhour (bind_of hcolon (bind_of hminute (bind_of hcolon' (bind_of hsecond ?_)))))
    refine bind_of hfraction (bind_of hzone ((if_neg (not_not_intro hend)).trans ?_))
    exact (if_neg hdate).trans ((if_neg hoffset).trans (if_pos hrange))

/-- The text of a point in time, part by part. -/
theorem toList_text (t : Timestamp) : t.text.toList =
    (yearText t.year).toList ++ '-' :: ((padded 2 t.month).toList ++ '-' :: ((padded 2 t.day).toList ++ 'T' ::
      ((padded 2 t.hour).toList ++ ':' :: ((padded 2 t.minute).toList ++ ':' ::
        ((padded 2 (t.second + t.nanosecond / 1000000000)).toList ++
          ((fractionText (t.nanosecond % 1000000000)).toList ++ ['Z'])))))) := by
  simp [text, clockText, String.toList_append, toString]

/-- A point in time of the calendar is read back from its text. -/
theorem parse_text {t : Timestamp} (h : t.Valid) : parse t.text.toList = .ok t := by
  have hdays : daysInMonth t.year t.month ≤ 31 := by
    unfold daysInMonth
    split
    · split
      · decide
      · decide
    · split
      · decide
      · decide
  have hyear : ∀ rest, yearPart ((yearText t.year).toList ++ '-' :: rest) = .ok (t.year, '-' :: rest) :=
    fun rest => yearPart_yearText h.year_inRange (endsNumber_cons (by decide))
  have hmonth : ∀ rest, bounded 1 12 ((padded 2 t.month).toList ++ rest) = .ok (t.month, rest) :=
    fun rest => bounded_padded h.isDate.month_le.1 h.isDate.month_le.2 (by have := h.isDate.month_le; omega)
  have hday : ∀ rest, bounded 1 31 ((padded 2 t.day).toList ++ rest) = .ok (t.day, rest) :=
    fun rest => bounded_padded h.isDate.day_le.1 (h.isDate.day_le.2.trans hdays) (by have := h.isDate.day_le; omega)
  have hhour : ∀ rest, bounded 0 23 ((padded 2 t.hour).toList ++ rest) = .ok (t.hour, rest) :=
    fun rest => bounded_padded (Nat.zero_le _) (Nat.le_of_lt_succ h.hour_lt) (h.hour_lt.trans (by decide))
  have hminute : ∀ rest, bounded 0 59 ((padded 2 t.minute).toList ++ rest) = .ok (t.minute, rest) :=
    fun rest => bounded_padded (Nat.zero_le _) (Nat.le_of_lt_succ h.minute_lt) (h.minute_lt.trans (by decide))
  have hseconds : t.second + t.nanosecond / 1000000000 ≤ 60 := by
    have := h.second_lt
    have := h.nanosecond_lt
    omega
  have hsecond : ∀ rest, bounded 0 60 ((padded 2 (t.second + t.nanosecond / 1000000000)).toList ++ rest) =
      .ok (t.second + t.nanosecond / 1000000000, rest) :=
    fun rest => bounded_padded (Nat.zero_le _) hseconds (by omega)
  have hfraction : fractionPart ((fractionText (t.nanosecond % 1000000000)).toList ++ ['Z']) =
      .ok (t.nanosecond % 1000000000, ['Z']) :=
    fractionPart_fractionText (Nat.mod_lt _ (by decide))
  have hdash : ∀ rest, mark '-' ('-' :: rest) = .ok rest := fun rest => mark_cons (by decide)
  have hcolon : ∀ rest, mark ':' (':' :: rest) = .ok rest := fun rest => mark_cons (by decide)
  have hzone : zonePart (Text.trimStart ['Z']) = .ok (0, []) := rfl
  refine parse_eq_ok_iff.2 ⟨t.year, t.month, t.day, t.hour, t.minute, t.second + t.nanosecond / 1000000000,
    t.nanosecond % 1000000000, 0, ?_, ?_, by decide, h.year_inRange, ?_⟩
  · rw [toList_text]
    exact .parts (hyear _) (hdash _) (hmonth _) (hdash _) (hday _) (Or.inr (Or.inl rfl)) (hhour _) (hcolon _) (hminute _)
      (hcolon _) (hsecond _) hfraction hzone rfl
  · rw [h.year_inRange]
    have := h.isDate.day_le
    simp
    omega
  · obtain ⟨year, month, day, hour, minute, second, nanosecond⟩ := t
    have hsecond : second < 60 := h.second_lt
    have hnanosecond : nanosecond < 1000000000 ∨ second = 59 ∧ nanosecond < 2000000000 := h.nanosecond_lt
    rw [ahead, if_pos rfl]
    simp only [ofClock, Timestamp.mk.injEq, true_and]
    constructor
    · split
      · omega
      · omega
    · split
      · omega
      · omega

/-! ## What is read is one of the calendar -/

theorem le_of_bounded {low high : Nat} {s : List Char} (h : bounded low high s = .ok (n, rest)) : low ≤ n ∧ n ≤ high := by
  obtain ⟨⟨m, s'⟩, -, h⟩ := of_bind h
  by_cases hle : low ≤ m ∧ m ≤ high
  · replace h := (if_pos hle).symm.trans h
    cases h
    exact hle
  · replace h := (if_neg hle).symm.trans h
    cases h

/-- Digits say less than the power of ten of their number. -/
theorem ofDigitChars_lt (h : ∀ c ∈ digits, c.isDigit = true) : ofDigitChars 10 digits 0 < 10 ^ digits.length := by
  induction digits using List.reverseRec with
  | nil => decide
  | append_singleton digits c ih =>
    have hdigits := ih fun d hd => h d (List.mem_append_left _ hd)
    have hc : c.toNat ≤ 57 := by
      have hdigit := h c (List.mem_append_right _ (List.mem_singleton_self _))
      rw [Char.isDigit_iff_toNat] at hdigit
      exact hdigit.2
    rw [Nat.ofDigitChars_append, Nat.ofDigitChars_cons, Nat.ofDigitChars_nil, List.length_append, List.length_singleton,
      Nat.pow_succ]
    have hzero : '0'.toNat = 48 := rfl
    omega

theorem of_number {s : List Char} (h : number width s = .ok (n, rest)) :
    n = ofDigitChars 10 ((s.take width).takeWhile Char.isDigit) 0 := by
  rw [number.eq_def] at h
  split at h
  · cases h
  · split at h
    · cases h
      rw [Nat.ofDigitChars_eq_foldl]
      rfl
    · cases h

/-- A fraction is less than a second. -/
theorem lt_of_fractionPart {s : List Char} (h : fractionPart s = .ok (n, rest)) : n < 1000000000 := by
  unfold fractionPart at h
  split at h
  · rename_i s
    obtain ⟨⟨m, after⟩, hm, h⟩ := of_bind h
    cases h
    obtain ⟨digits, hdigits⟩ : ∃ digits, digits = (s.take 9).takeWhile Char.isDigit := ⟨_, rfl⟩
    have hlength : digits.length ≤ 9 := by
      rw [hdigits]
      exact (List.takeWhile_sublist _).length_le.trans (List.length_take_le ..)
    have hvalue : m < 10 ^ digits.length := by
      rw [of_number hm, ← hdigits]
      exact ofDigitChars_lt fun c hc => List.mem_takeWhile_imp (hdigits ▸ hc)
    rw [← hdigits]
    calc m * 10 ^ (9 - digits.length)
        < 10 ^ digits.length * 10 ^ (9 - digits.length) := Nat.mul_lt_mul_of_pos_right hvalue (Nat.pow_pos (by decide))
      _ = 1000000000 := by rw [← Nat.pow_add, Nat.add_sub_cancel' hlength]
  · cases h
    decide

/-- An offset is one of whole minutes. -/
theorem minutes_of_zonePart {s : List Char} {offset : Int} (h : zonePart s = .ok (offset, rest)) : offset % 60 = 0 := by
  have hsigned : ∀ (negative : Bool) (s : List Char),
      (do
        let hours ← twoDigits s
        let minutes ← twoDigits (hours.2.dropWhile fun c => c = ':' ∨ Text.isBlank c)
        if minutes.1 < 60 then
          let seconds : Int := hours.1 * 3600 + minutes.1 * 60
          return (if negative then -seconds else seconds, minutes.2)
        else throw TimeError.outOfRange : Except TimeError (Int × List Char)) = .ok (offset, rest) → offset % 60 = 0 := by
    intro negative s h
    obtain ⟨⟨hours, s₁⟩, -, h⟩ := of_bind h
    obtain ⟨⟨minutes, s₂⟩, -, h⟩ := of_bind h
    simp only at h
    split at h
    · cases h
      split
      · omega
      · omega
    · cases h
  have hoffset : ∀ s, offsetPart s = .ok (offset, rest) → offset % 60 = 0 := by
    intro s h
    unfold offsetPart at h
    split at h
    · cases h
    · split at h
      · exact hsigned _ _ h
      · split at h
        · exact hsigned _ _ h
        · cases h
  unfold zonePart at h
  split at h
  · cases h
    rfl
  · split at h
    · split at h
      · cases h
        rfl
      · exact hoffset _ h
    · cases h

/-- What is read is a point in time of the calendar. -/
theorem valid_of_parse {s : List Char} {t : Timestamp} (h : parse s = .ok t) : t.Valid := by
  obtain ⟨year, month, day, hour, minute, second, fraction, offset, hreads, hdate, -, hrange, rfl⟩ := parse_eq_ok_iff.1 h
  obtain ⟨-, -, hmonth, -, hday, -, hhour, -, hminute, -, hsecond, hfraction, hzone, -⟩ := hreads
  obtain ⟨hyear, hday_le⟩ := not_or.1 hdate
  have hclock : (ofClock year month day hour minute second fraction).Valid := by
    have hinRange : yearInRange year = true := by simpa using hyear
    have := lt_of_fractionPart hfraction
    have := le_of_bounded hsecond
    refine ⟨hinRange, ⟨le_of_bounded hmonth, (le_of_bounded hday).1, Nat.le_of_not_lt hday_le⟩,
      Nat.lt_succ_of_le (le_of_bounded hhour).2, Nat.lt_succ_of_le (le_of_bounded hminute).2, ?_, ?_⟩
    · show (if second = 60 then 59 else second) < 60
      split
      · decide
      · omega
    · show (if second = 60 then fraction + 1000000000 else fraction) < 1000000000 ∨
        (if second = 60 then 59 else second) = 59 ∧ (if second = 60 then fraction + 1000000000 else fraction) < 2000000000
      split
      · exact Or.inr ⟨rfl, by omega⟩
      · exact Or.inl ‹_›
  rw [ahead] at hrange ⊢
  split
  · exact hclock
  · rename_i hshift
    rw [if_neg hshift] at hrange
    exact hclock.earlier (minutes_of_zonePart hzone) hrange

end Timestamp

end ComponentAudit
