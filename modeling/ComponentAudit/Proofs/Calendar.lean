import Mathlib.Tactic.IntervalCases
import ComponentAudit.Timestamp

/-!
# The calendar of points in time

A point in time that is read keeps within the calendar (`Timestamp.Valid`): its month is one of twelve, its day one that the
month has. Where it is written with an offset, its date is worked out again from a number of days, and that gives a date too
(`Timestamp.isDate_dateOf`).
-/

namespace ComponentAudit.Timestamp

/-! ## Dates -/

/-- A month of the year and a day that the month has. -/
structure IsDate (year : Int) (month day : Nat) : Prop where
  month_le : 1 ≤ month ∧ month ≤ 12
  day_le : 1 ≤ day ∧ day ≤ daysInMonth year month

instance (year : Int) (month day : Nat) : Decidable (IsDate year month day) :=
  decidable_of_iff ((1 ≤ month ∧ month ≤ 12) ∧ 1 ≤ day ∧ day ≤ daysInMonth year month)
    ⟨fun ⟨hmonth, hday⟩ => ⟨hmonth, hday⟩, fun h => ⟨h.month_le, h.day_le⟩⟩

/-- A day of an era of four hundred years, by the centuries, the spans of four years, the years and the days before it. The
years begin in March, so that a leap day is the last one of its year. -/
structure EraDay (dayOfEra centuries spans years days : Int) : Prop where
  total : dayOfEra = 36524 * centuries + 1461 * spans + 365 * years + days
  centuries_le : 0 ≤ centuries ∧ centuries ≤ 3
  spans_le : 0 ≤ spans ∧ spans ≤ 24
  years_le : 0 ≤ years ∧ years ≤ 3
  days_le : 0 ≤ days ∧ days ≤ 365
  leapDay : days = 365 → years = 3 ∧ (spans = 24 → centuries = 3)

theorem exists_eraDay {e : Int} (h : 0 ≤ e ∧ e < 146097) : ∃ c q u d, EraDay e c q u d := by
  by_cases hlast : e = 146096
  · exact ⟨3, 24, 3, 365, by omega, by omega, by omega, by omega, by omega, by omega⟩
  · obtain ⟨c, hc⟩ : ∃ c, c = e / 36524 := ⟨_, rfl⟩
    obtain ⟨q, hq⟩ : ∃ q, q = e % 36524 / 1461 := ⟨_, rfl⟩
    obtain ⟨s, hs⟩ : ∃ s, s = e % 36524 % 1461 := ⟨_, rfl⟩
    by_cases hleap : s = 1460
    · exact ⟨c, q, 3, 365, by omega, by omega, by omega, by omega, by omega, by omega⟩
    · exact ⟨c, q, s / 365, s % 365, by omega, by omega, by omega, by omega, by omega, by omega⟩

variable {e c q u d : Int}

theorem EraDay.yearOfEra (h : EraDay e c q u d) :
    (e - e / 1460 + e / 36524 - e / 146096) / 365 = 100 * c + 4 * q + u := by
  obtain ⟨he, hc, hq, hu, hd, hleap⟩ := h
  by_cases hlast : e = 146096
  · omega
  · have hcentury : e / 36524 = c := by omega
    have hera : e / 146096 = 0 := by omega
    -- The division by 1460 is off by one where the year is about to end.
    obtain ⟨k, hk⟩ : ∃ k, e / 1460 = 25 * c + q + k := ⟨e / 1460 - 25 * c - q, by omega⟩
    have hbounds : 1460 * k ≤ 24 * c + q + 365 * u + d ∧ 24 * c + q + 365 * u + d < 1460 * (k + 1) := by omega
    have hsum : e - e / 1460 + e / 36524 - e / 146096 = 365 * (100 * c + 4 * q + u) + (d - k) := by omega
    rw [hsum]
    omega

theorem EraDay.dayOfYear (h : EraDay e c q u d) :
    e - (365 * (100 * c + 4 * q + u) + (100 * c + 4 * q + u) / 4 - (100 * c + 4 * q + u) / 100) = d := by
  obtain ⟨he, hc, hq, hu, hd, hleap⟩ := h
  omega

/-- The months between two leap days, counted from March. -/
theorem daysInMonth_of_march {y month : Int} (h : 0 ≤ month ∧ month ≤ 10) :
    (daysInMonth y (if month < 10 then month + 3 else month - 9).toNat : Int) =
      (153 * (month + 1) + 2) / 5 - (153 * month + 2) / 5 := by
  obtain ⟨hlow, hhigh⟩ := h
  interval_cases month <;> rfl

/-- The month and the day of the month of a day of a year that begins in March, the leap day only if there is one. -/
theorem isDate_of_dayOfYear {y d month m : Int} (hd : 0 ≤ d ∧ d ≤ 365) (hleap : d = 365 → isLeap (y + 1) = true)
    (hmonth : month = (5 * d + 2) / 153) (hm : m = if month < 10 then month + 3 else month - 9) :
    IsDate (if m ≤ 2 then y + 1 else y) m.toNat (d - (153 * month + 2) / 5 + 1).toNat := by
  by_cases hlast : month = 11
  · have hfebruary : m = 2 := by rw [hm, hlast]; rfl
    subst hfebruary
    refine ⟨by decide, by omega, ?_⟩
    show _ ≤ daysInMonth (y + 1) 2
    rw [daysInMonth, if_pos rfl]
    split
    · omega
    · rename_i hcommon
      have : d ≠ 365 := fun h => hcommon (hleap h)
      omega
  · have hbounds : 0 ≤ month ∧ month ≤ 10 := by omega
    refine ⟨?_, ?_, ?_⟩
    · rw [hm]
      split
      · omega
      · omega
    · omega
    · have hdays := @daysInMonth_of_march (if m ≤ 2 then y + 1 else y) month hbounds
      rw [← hm] at hdays
      omega

/-- Each day number is that of a date. -/
theorem isDate_dateOf (n : Int) : IsDate (dateOf n).1 (dateOf n).2.1 (dateOf n).2.2 := by
  have hera : 0 ≤ n - n.fdiv 146097 * 146097 ∧ n - n.fdiv 146097 * 146097 < 146097 := by
    rw [Int.fdiv_eq_ediv_of_nonneg _ (by decide)]
    omega
  obtain ⟨c, q, u, d, h⟩ := exists_eraDay hera
  have hleap : d = 365 → isLeap (100 * c + 4 * q + u + n.fdiv 146097 * 400 + 1) = true := by
    intro hd
    obtain ⟨hu, hq⟩ := h.leapDay hd
    have := h.centuries_le
    have := h.spans_le
    simp only [isLeap, decide_eq_true_eq]
    omega
  have hdate := isDate_of_dayOfYear h.days_le hleap rfl rfl
  simp only [dateOf, h.yearOfEra, h.dayOfYear]
  exact hdate

/-! ## Points in time -/

/-- A point in time of the calendar. A fraction of a second or more follows only the last second of a minute. -/
structure Valid (t : Timestamp) : Prop where
  year_inRange : yearInRange t.year = true
  isDate : IsDate t.year t.month t.day
  hour_lt : t.hour < 24
  minute_lt : t.minute < 60
  second_lt : t.second < 60
  nanosecond_lt : t.nanosecond < 1000000000 ∨ t.second = 59 ∧ t.nanosecond < 2000000000

instance (t : Timestamp) : Decidable t.Valid :=
  decidable_of_iff (yearInRange t.year = true ∧ IsDate t.year t.month t.day ∧ t.hour < 24 ∧ t.minute < 60 ∧ t.second < 60 ∧
      (t.nanosecond < 1000000000 ∨ t.second = 59 ∧ t.nanosecond < 2000000000))
    ⟨fun ⟨hyear, hdate, hhour, hminute, hsecond, hnanosecond⟩ => ⟨hyear, hdate, hhour, hminute, hsecond, hnanosecond⟩,
      fun h => ⟨h.year_inRange, h.isDate, h.hour_lt, h.minute_lt, h.second_lt, h.nanosecond_lt⟩⟩

/-- Whole minutes earlier, a point in time has the same seconds, and so it stays one of the calendar as long as its year is in
range. -/
theorem Valid.earlier {t : Timestamp} (ht : t.Valid) {seconds : Int} (hminutes : seconds % 60 = 0)
    (hyear : yearInRange (t.earlier seconds).year = true) : (t.earlier seconds).Valid := by
  obtain ⟨rest, hrest⟩ : ∃ rest,
      rest = ((((t.hour * 3600 + t.minute * 60 + t.second : Nat) : Int) - seconds).fmod 86400).toNat := ⟨_, rfl⟩
  have hhour : (t.earlier seconds).hour = rest / 3600 := by rw [hrest]; rfl
  have hminute : (t.earlier seconds).minute = rest / 60 % 60 := by rw [hrest]; rfl
  have hsecond : (t.earlier seconds).second = rest % 60 := by rw [hrest]; rfl
  rw [Int.fmod_eq_emod_of_nonneg _ (by decide)] at hrest
  have hsame : rest % 60 = t.second := by
    have := ht.second_lt
    omega
  refine ⟨hyear, isDate_dateOf _, ?_, ?_, ?_, ?_⟩
  · rw [hhour]
    omega
  · rw [hminute]
    omega
  · rw [hsecond]
    omega
  · rw [hsecond, hsame]
    exact ht.nanosecond_lt

end ComponentAudit.Timestamp
