/-!
The Gregorian calendar, which counts years before the year 1 as 0, -1 and so on.
-/

namespace Jukebox

/-- A year has a 29th of February. -/
def isLeapYear (year : Int) : Bool :=
  year % 4 == 0 && (year % 100 != 0 || year % 400 == 0)

/-- The number of days in a month; no days in a month that does not exist. -/
def daysInMonth (year : Int) (month : Nat) : Nat :=
  match month with
  | 2 => if isLeapYear year then 29 else 28
  | 4 | 6 | 9 | 11 => 30
  | 1 | 3 | 5 | 7 | 8 | 10 | 12 => 31
  | _ => 0

theorem one_le_daysInMonth {year : Int} {month : Nat} (h : 1 ≤ month ∧ month ≤ 12) :
    1 ≤ daysInMonth year month := by
  unfold daysInMonth
  split
  · split <;> decide
  all_goals first | decide | grind

/-- A day of the calendar. -/
structure Date where
  year : Int
  month : Nat
  day : Nat
  month_valid : 1 ≤ month ∧ month ≤ 12
  day_valid : 1 ≤ day ∧ day ≤ daysInMonth year month
deriving DecidableEq, Repr

namespace Date

/-- The day with these numbers, if the calendar has it. -/
def ofNumbers? (year : Int) (month day : Nat) : Option Date :=
  if hm : 1 ≤ month ∧ month ≤ 12 then
    if hd : 1 ≤ day ∧ day ≤ daysInMonth year month then some ⟨year, month, day, hm, hd⟩ else none
  else none

/-- The day after. -/
def next (d : Date) : Date :=
  if h : d.day + 1 ≤ daysInMonth d.year d.month then
    ⟨d.year, d.month, d.day + 1, d.month_valid, by omega, h⟩
  else if hm : d.month + 1 ≤ 12 then
    have hv : 1 ≤ d.month + 1 ∧ d.month + 1 ≤ 12 := ⟨by omega, hm⟩
    ⟨d.year, d.month + 1, 1, hv, by decide, one_le_daysInMonth hv⟩
  else ⟨d.year + 1, 1, 1, by decide, by decide, one_le_daysInMonth (by decide)⟩

/-- The day before. -/
def previous (d : Date) : Date :=
  if h : 1 ≤ d.day - 1 then
    ⟨d.year, d.month, d.day - 1, d.month_valid, h, by have := d.day_valid; omega⟩
  else if hm : 1 ≤ d.month - 1 then
    have hv : 1 ≤ d.month - 1 ∧ d.month - 1 ≤ 12 := ⟨hm, by have := d.month_valid; omega⟩
    ⟨d.year, d.month - 1, daysInMonth d.year (d.month - 1), hv, one_le_daysInMonth hv,
      Nat.le_refl _⟩
  else ⟨d.year - 1, 12, 31, by decide, by decide, Nat.le_refl 31⟩

/-- The number of days in the months of a year before `month`. -/
def daysBefore (year : Int) (month : Nat) : Nat :=
  (List.range (month - 1)).foldl (fun days m => days + daysInMonth year (m + 1)) 0

/-- The number of the day in the calendar, 1 January of the year 1 being day 0. -/
def number (d : Date) : Int :=
  let y := d.year - 1
  365 * y + y / 4 - y / 100 + y / 400 + daysBefore d.year d.month + (d.day - 1)

/-- The first day of 1970. -/
def epoch : Date :=
  ⟨1970, 1, 1, by decide, by decide⟩

/-- The day so many days after the first day of a month. -/
def inMonth (year : Int) (month : Nat) : (fuel days : Nat) → Date
  | 0, _ => epoch
  | fuel + 1, days =>
    if days < daysInMonth year month then
      (ofNumbers? year month (days + 1)).getD epoch
    else if month < 12 then inMonth year (month + 1) fuel (days - daysInMonth year month)
    else inMonth (year + 1) 1 fuel (days - daysInMonth year month)

/-- The day so many days after 1 January 1970. -/
def ofUnixDays (days : Nat) : Date :=
  inMonth 1970 1 (days + 1) days

end Date

end Jukebox
