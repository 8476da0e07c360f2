import GatewayCache.Timestamp.Basic
import Mathlib.Data.Prod.Lex
import Mathlib.Order.Monotone.Basic
import Mathlib.Data.List.Lex

/-!
Dates as day numbers and instants as numbers of minutes. The day after a date has the next number,
so that going over the end of a month, of a year or of a leap year is plain counting, and instants
are in the order of their parts.
-/
namespace GatewayCache

namespace Date

/-- The month exists and the day exists in it, in whatever year. -/
structure Valid (d : Date) : Prop where
  month : 1 ≤ d.month ∧ d.month ≤ 12
  day : 1 ≤ d.day ∧ d.day ≤ daysIn d.year d.month

theorem Exists.valid {d : Date} (h : d.Exists) : d.Valid :=
  ⟨⟨h.2.2.1, h.2.2.2.1⟩, h.2.2.2.2⟩

/-- The days from the start of the year 1 to the start of a year: 365 for each year between, and
one for each leap year. -/
def daysBefore (year : Int) : Int :=
  365 * (year - 1) + (year - 1) / 4 - (year - 1) / 100 + (year - 1) / 400

/-- The days that the first months of a year have. -/
def daysOfMonths (year : Int) : Nat → Nat
  | 0 => 0
  | months + 1 => daysOfMonths year months + daysIn year (months + 1)

/-- The number of a date, when days are counted from the first day of the year 1. -/
def dayNumber (d : Date) : Int :=
  daysBefore d.year + daysOfMonths d.year (d.month - 1) + (d.day - 1)

/-! ### Months and years -/

theorem one_le_daysIn (year : Int) (month : Nat) : 1 ≤ daysIn year month := by
  unfold daysIn
  split
  · split <;> decide
  · split <;> decide

theorem daysOfMonths_succ (year : Int) (month : Nat) (h : 1 ≤ month) :
    daysOfMonths year month = daysOfMonths year (month - 1) + daysIn year month := by
  obtain ⟨n, rfl⟩ : ∃ n, month = n + 1 := ⟨month - 1, by omega⟩
  rfl

theorem daysOfMonths_mono (year : Int) : Monotone (daysOfMonths year) :=
  monotone_nat_of_le_succ fun _ => Nat.le_add_right ..

theorem daysOfMonths_twelve (year : Int) :
    daysOfMonths year 12 = if isLeapYear year then 366 else 365 := by
  simp only [daysOfMonths, daysIn]
  cases isLeapYear year <;> rfl

theorem daysBefore_succ (year : Int) :
    daysBefore (year + 1) = daysBefore year + daysOfMonths year 12 := by
  rw [daysOfMonths_twelve, daysBefore, daysBefore, isLeapYear]
  simp only [Bool.and_eq_true, Bool.or_eq_true, beq_iff_eq, bne_iff_ne]
  -- The three quotients grow behind the years that 4, 100 and 400 divide.
  split <;> omega

theorem daysBefore_mono {year later : Int} (h : year ≤ later) :
    daysBefore year ≤ daysBefore later := by
  unfold daysBefore
  omega

/-! ### The day after and the day before -/

variable {d e : Date}

theorem valid_next (valid : d.Valid) : d.next.Valid := by
  obtain ⟨month, day⟩ := valid
  unfold next
  split
  next inMonth => exact ⟨month, by simp only; omega⟩
  split
  next inYear => exact ⟨by simp only; omega, by simpa using one_le_daysIn ..⟩
  next => exact ⟨by simp, by simpa using one_le_daysIn ..⟩

theorem valid_previous (valid : d.Valid) : d.previous.Valid := by
  obtain ⟨month, day⟩ := valid
  unfold previous
  split
  next inMonth => exact ⟨month, by simp only; omega⟩
  split
  next inYear => exact ⟨by simp only; omega, by simpa using one_le_daysIn ..⟩
  next => exact ⟨by simp, by simp [daysIn]⟩

theorem dayNumber_newYear (year : Int) : dayNumber ⟨year, 1, 1⟩ = daysBefore year := by
  simp [dayNumber, daysOfMonths]

theorem dayNumber_yearEnd (year : Int) : dayNumber ⟨year, 12, 31⟩ = daysBefore (year + 1) - 1 := by
  have whole := daysOfMonths_succ year 12 (by decide)
  have december : daysIn year 12 = 31 := rfl
  rw [daysBefore_succ, dayNumber]
  simp only
  omega

theorem dayNumber_next (valid : d.Valid) : d.next.dayNumber = d.dayNumber + 1 := by
  obtain ⟨year, month, day⟩ := d
  obtain ⟨⟨january, december⟩, ⟨first, last⟩⟩ := valid
  simp only at january december first last
  unfold next
  split
  next inMonth => simp only [dayNumber]; omega
  next atEnd =>
    simp only at atEnd
    split
    next inYear =>
      have whole := daysOfMonths_succ year month january
      simp only [dayNumber, Nat.add_sub_cancel]
      omega
    next inDecember =>
      -- December has 31 days in every year, and the next year begins.
      obtain rfl : month = 12 := by simp only at inDecember; omega
      obtain rfl : day = 31 := Nat.le_antisymm last (Nat.not_lt.1 atEnd)
      rw [dayNumber_newYear, dayNumber_yearEnd, Int.sub_add_cancel]

theorem dayNumber_previous (valid : d.Valid) : d.previous.dayNumber = d.dayNumber - 1 := by
  obtain ⟨year, month, day⟩ := d
  obtain ⟨⟨january, december⟩, ⟨first, last⟩⟩ := valid
  simp only at january december first last
  unfold previous
  split
  next inMonth => simp only [dayNumber] at inMonth ⊢; omega
  next atStart =>
    simp only at atStart
    split
    next inYear =>
      simp only at inYear
      have whole := daysOfMonths_succ year (month - 1) (by omega)
      have some_day := one_le_daysIn year (month - 1)
      simp only [dayNumber]
      omega
    next inJanuary =>
      obtain rfl : month = 1 := by simp only at inJanuary; omega
      obtain rfl : day = 1 := by omega
      rw [dayNumber_newYear, dayNumber_yearEnd, Int.sub_add_cancel]

/-! ### The order of dates -/

theorem daysBefore_le_dayNumber (valid : d.Valid) : daysBefore d.year ≤ d.dayNumber := by
  have := valid.day.1
  unfold dayNumber
  omega

/-- A day of a month has a smaller number than the month after it. -/
theorem dayNumber_lt_of_daysOfMonths (valid : d.Valid) {months : Nat} (h : d.month ≤ months) :
    d.dayNumber < daysBefore d.year + daysOfMonths d.year months := by
  have whole := daysOfMonths_succ d.year d.month valid.month.1
  have later := daysOfMonths_mono d.year h
  have inMonth := valid.day.2
  unfold dayNumber
  omega

theorem dayNumber_lt (validD : d.Valid) (validE : e.Valid)
    (earlier : d.year < e.year ∨ d.year = e.year ∧
      (d.month < e.month ∨ d.month = e.month ∧ d.day < e.day)) :
    d.dayNumber < e.dayNumber := by
  rcases earlier with year | ⟨year, month | ⟨month, day⟩⟩
  · have inYear := dayNumber_lt_of_daysOfMonths validD validD.month.2
    rw [← daysBefore_succ] at inYear
    have ordered := daysBefore_mono (Int.add_one_le_of_lt year)
    have start := daysBefore_le_dayNumber validE
    omega
  · have inMonth := dayNumber_lt_of_daysOfMonths validD (Nat.le_sub_one_of_lt month)
    have first := validE.day.1
    rw [year] at inMonth
    refine Int.lt_of_lt_of_le inMonth ?_
    unfold dayNumber
    omega
  · unfold dayNumber
    rw [year, month]
    have first := validD.day.1
    omega

example : dayNumber ⟨1970, 1, 1⟩ = 719162 := by decide

end Date

/--
The number of a UTC minute and the nanoseconds since the minute began. With a leap second there are
61 seconds of them, so the leap second lies behind all others of its minute and in front of the next
minute.
-/
abbrev Instant := Int ×ₗ Nat

namespace Civil

/-- The date exists in whatever year, and so does the time of day. -/
structure Valid (c : Civil) : Prop where
  date : c.date.Valid
  hour : c.hour < 24
  minute : c.minute < 60
  second : c.second ≤ 60
  nano : c.nano < 1000000000

theorem Exists.valid {c : Civil} (h : c.Exists) : c.Valid :=
  ⟨h.1.valid, h.2.1, h.2.2.1, h.2.2.2.1, h.2.2.2.2⟩

/-- The number of a minute, when minutes are counted from the start of the year 1. -/
def minuteNumber (c : Civil) : Int := c.date.dayNumber * 1440 + c.hour * 60 + c.minute

/-- The instant at which clocks `offset` minutes ahead of UTC show a date and time. -/
def instant (c : Civil) (offset : Int) : Instant :=
  toLex (c.minuteNumber - offset, c.second * 1000000000 + c.nano)

variable {c e : Civil} {offset : Int}

/-! ### Other clocks -/

theorem minuteNumber_behind (valid : c.Valid) (low : -1440 < offset) (high : offset < 1440) :
    (c.behind offset).minuteNumber = c.minuteNumber - offset := by
  have hour := valid.hour
  have minute := valid.minute
  simp only [behind, minuteNumber]
  split
  next dayBefore =>
    rw [Date.dayNumber_previous valid.date]
    omega
  split
  next dayAfter =>
    rw [Date.dayNumber_next valid.date]
    omega
  next sameDay => omega

theorem valid_behind (valid : c.Valid) (offset : Int) : (c.behind offset).Valid := by
  refine ⟨?_, ?_, ?_, valid.second, valid.nano⟩
  · simp only [behind]
    split
    · exact Date.valid_previous valid.date
    split
    · exact Date.valid_next valid.date
    · exact valid.date
  · simp only [behind]
    omega
  · simp only [behind]
    omega

theorem instant_behind (valid : c.Valid) (low : -1440 < offset) (high : offset < 1440) :
    (c.behind offset).instant 0 = c.instant offset := by
  rw [instant, instant, minuteNumber_behind valid low high, Int.sub_zero]
  rfl

/-! ### The order of instants -/

theorem parts_lt_iff : c.parts < e.parts ↔
    (c.date.year < e.date.year ∨ c.date.year = e.date.year ∧
      (c.date.month < e.date.month ∨ c.date.month = e.date.month ∧ c.date.day < e.date.day)) ∨
    c.date = e.date ∧ (c.hour < e.hour ∨ c.hour = e.hour ∧
      (c.minute < e.minute ∨ c.minute = e.minute ∧
        (c.second < e.second ∨ c.second = e.second ∧ c.nano < e.nano))) := by
  obtain ⟨⟨year, month, day⟩, hour, minute, second, nano⟩ := c
  obtain ⟨⟨year', month', day'⟩, hour', minute', second', nano'⟩ := e
  simp only [parts, List.cons_lt_cons_iff, List.lt_irrefl, Date.mk.injEq, and_false, or_false,
    Int.ofNat_lt, Int.ofNat_inj, and_or_left, and_assoc, or_assoc]

theorem instant_lt (validC : c.Valid) (validE : e.Valid) (earlier : c.parts < e.parts) :
    c.instant 0 < e.instant 0 := by
  have hourC := validC.hour
  have minuteC := validC.minute
  have nanoC := validC.nano
  simp only [instant, minuteNumber, Prod.Lex.toLex_lt_toLex]
  -- A time of day has less than 1440 minutes, so it never makes up for an earlier date.
  rcases parts_lt_iff.1 earlier with date | ⟨date, time⟩
  · have := Date.dayNumber_lt validC.date validE.date date
    left
    omega
  · rw [date]
    omega

theorem eq_of_parts_eq (same : c.parts = e.parts) : c = e := by
  obtain ⟨⟨year, month, day⟩, hour, minute, second, nano⟩ := c
  obtain ⟨⟨year', month', day'⟩, hour', minute', second', nano'⟩ := e
  simp only [parts, List.cons.injEq, Int.ofNat_inj, and_true] at same
  simp only [mk.injEq, Date.mk.injEq, and_assoc]
  exact same

theorem parts_lt_iff_instant_lt (validC : c.Valid) (validE : e.Valid) :
    c.parts < e.parts ↔ c.instant 0 < e.instant 0 := by
  refine ⟨instant_lt validC validE, fun earlier => ?_⟩
  rcases lt_trichotomy c.parts e.parts with less | same | greater
  · exact less
  · rw [eq_of_parts_eq same] at earlier
    exact absurd earlier (lt_irrefl _)
  · exact absurd (instant_lt validE validC greater) (lt_asymm earlier)

theorem eq_of_instant_eq (validC : c.Valid) (validE : e.Valid)
    (same : c.instant 0 = e.instant 0) : c = e := by
  rcases lt_trichotomy c.parts e.parts with less | equal | greater
  · exact absurd same (instant_lt validC validE less).ne
  · exact eq_of_parts_eq equal
  · exact absurd same (instant_lt validE validC greater).ne'

end Civil

namespace Timestamp

variable {a b t : Timestamp} {c : Civil} {offset : Int}

def instant (t : Timestamp) : Instant := t.utc.instant 0

/-- Timestamps are in the order of their instants. -/
theorem lt_iff_instant_lt : a < b ↔ a.instant < b.instant :=
  Civil.parts_lt_iff_instant_lt a.exists_utc.valid b.exists_utc.valid

/-- There is one timestamp for an instant at most. -/
theorem instant_injective : Function.Injective instant := by
  intro a b same
  have utc := Civil.eq_of_instant_eq a.exists_utc.valid b.exists_utc.valid same
  obtain ⟨_, _⟩ := a
  obtain ⟨_, _⟩ := b
  cases utc
  rfl

/-- What clocks show that are less than a day ahead or behind denotes the instant that it is. -/
theorem ofLocal?_eq_some_iff (low : -1440 < offset) (high : offset < 1440) :
    ofLocal? c offset = some t ↔ c.Exists ∧ t.instant = c.instant offset := by
  rw [ofLocal?]
  by_cases found : c.Exists
  · have valid := Civil.valid_behind found.valid offset
    rw [if_pos found, and_iff_right found, ← Civil.instant_behind found.valid low high]
    constructor
    · intro h
      rw [ofUtc?] at h
      split at h
      next inRange =>
        cases h
        rfl
      next => cases h
    · intro same
      have utc := Civil.eq_of_instant_eq t.exists_utc.valid valid same
      rw [← utc, ofUtc?, dif_pos t.exists_utc]
  · rw [if_neg found]
    exact ⟨nofun, fun h => absurd h.1 found⟩

end Timestamp

end GatewayCache
