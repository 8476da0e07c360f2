/-!
Instants as UTC dates and times of the proleptic Gregorian calendar. A leap second is the second
after `:59` of its minute, so the order of instants is the order of their parts.
-/
namespace GatewayCache

/-- A day of the proleptic Gregorian calendar; the year before year 1 is year 0. -/
structure Date where
  year : Int
  month : Nat
  day : Nat
deriving DecidableEq

namespace Date

def isLeapYear (year : Int) : Bool := year % 4 == 0 && (year % 100 != 0 || year % 400 == 0)

def daysIn (year : Int) (month : Nat) : Nat :=
  if month = 2 then if isLeapYear year then 29 else 28
  else if month = 4 || month = 6 || month = 9 || month = 11 then 30
  else 31

/-- The first and the last year that a date may have. -/
def firstYear : Int := -262143

@[inherit_doc firstYear]
def lastYear : Int := 262142

/-- The date exists and its year is in range. -/
def Exists (d : Date) : Prop :=
  firstYear ≤ d.year ∧ d.year ≤ lastYear ∧ 1 ≤ d.month ∧ d.month ≤ 12 ∧
    1 ≤ d.day ∧ d.day ≤ daysIn d.year d.month

instance (d : Date) : Decidable d.Exists := by unfold Exists; infer_instance

def next (d : Date) : Date :=
  if d.day < daysIn d.year d.month then { d with day := d.day + 1 }
  else if d.month < 12 then ⟨d.year, d.month + 1, 1⟩
  else ⟨d.year + 1, 1, 1⟩

def previous (d : Date) : Date :=
  if 1 < d.day then { d with day := d.day - 1 }
  else if 1 < d.month then ⟨d.year, d.month - 1, daysIn d.year (d.month - 1)⟩
  else ⟨d.year - 1, 12, 31⟩

end Date

/-- A date with a time of day; second 60 is a leap second. -/
structure Civil where
  date : Date
  hour : Nat
  minute : Nat
  second : Nat
  nano : Nat
deriving DecidableEq

namespace Civil

/-- The date and the time of day exist. -/
def Exists (c : Civil) : Prop :=
  c.date.Exists ∧ c.hour < 24 ∧ c.minute < 60 ∧ c.second ≤ 60 ∧ c.nano < 1000000000

instance (c : Civil) : Decidable c.Exists := by unfold Exists; infer_instance

/-- The same instant where clocks show `minutes` less, for less than a day either way. -/
def behind (c : Civil) (minutes : Int) : Civil :=
  let m := (c.hour * 60 + c.minute : Int) - minutes
  let date := if m < 0 then c.date.previous else if 1440 ≤ m then c.date.next else c.date
  let ofDay := (m % 1440).toNat
  { c with date, hour := ofDay / 60, minute := ofDay % 60 }

/-- The parts from the year down to the nanosecond. -/
def parts (c : Civil) : List Int :=
  [c.date.year, c.date.month, c.date.day, c.hour, c.minute, c.second, c.nano]

end Civil

/-- An instant, as the UTC date and time that it is. -/
structure Timestamp where
  utc : Civil
  exists_utc : utc.Exists
deriving DecidableEq

namespace Timestamp

instance : LT Timestamp := ⟨fun a b => a.utc.parts < b.utc.parts⟩

instance (a b : Timestamp) : Decidable (a < b) :=
  inferInstanceAs (Decidable (a.utc.parts < b.utc.parts))

/-- The instant of a UTC date and time, if they exist. -/
def ofUtc? (c : Civil) : Option Timestamp := if h : c.Exists then some ⟨c, h⟩ else none

/--
The instant at which clocks `offset` minutes ahead of UTC show a date and time. Both the local
and the UTC date have to exist.
-/
def ofLocal? (c : Civil) (offset : Int) : Option Timestamp :=
  if c.Exists then ofUtc? (c.behind offset) else none

/-- The start of the year 1970. -/
def epoch : Timestamp := ⟨⟨⟨1970, 1, 1⟩, 0, 0, 0, 0⟩, by decide⟩

instance : Inhabited Timestamp := ⟨epoch⟩

end Timestamp

end GatewayCache
