-- The Gregorian calendar before and after its beginning: the days are numbered
-- from 1970-01-01 on, and each day has one date.
import Mathlib.Tactic.IntervalCases
import Mathlib.Tactic.Linarith

namespace calendar

/-! ## Years -/

/-- The number of leap days in a year. -/
def leapDays (year : Int) : Int :=
  if year % 4 = 0 ∧ (year % 100 ≠ 0 ∨ year % 400 = 0) then 1 else 0

/-- The number of the first day of a year. -/
def dayFromYear (year : Int) : Int :=
  365 * (year - 1970) + (year - 1969) / 4 - (year - 1901) / 100 + (year - 1601) / 400

/-- The year of a day: the year by the mean length of years, or one of its neighbours. -/
def yearFromDay (n : Int) : Int :=
  let mean := 1970 + 400 * n / 146097
  if n < dayFromYear mean then mean - 1
  else if dayFromYear (mean + 1) ≤ n then mean + 1
  else mean

theorem leapDays_bounds (year : Int) : 0 ≤ leapDays year ∧ leapDays year ≤ 1 := by
  unfold leapDays
  split_ifs <;> decide

theorem dayFromYear_succ (year : Int) :
    dayFromYear (year + 1) = dayFromYear year + 365 + leapDays year := by
  unfold dayFromYear leapDays
  split_ifs <;> omega

/-- From one year to a later one there are 365 days for each year, and not many more. -/
theorem dayFromYear_le {a b : Int} (h : a ≤ b) :
    dayFromYear a + 365 * (b - a) ≤ dayFromYear b := by
  unfold dayFromYear
  omega

theorem year_bounds (n : Int) :
    dayFromYear (yearFromDay n) ≤ n ∧ n < dayFromYear (yearFromDay n + 1) := by
  unfold yearFromDay
  dsimp only
  have hbefore : dayFromYear (1970 + 400 * n / 146097 - 1) ≤ n := by
    unfold dayFromYear
    omega
  have hbehind : n < dayFromYear (1970 + 400 * n / 146097 + 1 + 1) := by
    unfold dayFromYear
    omega
  split_ifs with h1 h2
  · exact ⟨hbefore, by rwa [Int.sub_add_cancel]⟩
  · exact ⟨h2, hbehind⟩
  · exact ⟨by omega, by omega⟩

/-- The years follow one another as the days do. -/
theorem le_yearFromDay {year n : Int} (h : dayFromYear year ≤ n) : year ≤ yearFromDay n := by
  by_contra hlt
  have hnext := dayFromYear_le (show yearFromDay n + 1 ≤ year by omega)
  have hbehind := (year_bounds n).2
  omega

/-! ## Months -/

/-- The number of days of a year before a month. -/
def daysBefore (year : Int) (month : Fin 12) : Int :=
  [0, 31, 59, 90, 120, 151, 181, 212, 243, 273, 304, 334].getD month 0 +
    if 2 ≤ month.val then leapDays year else 0

/-- The number of days of a month. -/
def daysIn (year : Int) (month : Fin 12) : Int :=
  [31, 28, 31, 30, 31, 30, 31, 31, 30, 31, 30, 31].getD month 0 +
    if month.val = 1 then leapDays year else 0

/-- The last one of the months up to `k` that starts until a day of the year. -/
def lastMonth (year day : Int) : (k : Nat) → k < 12 → Fin 12
  | 0, h => ⟨0, h⟩
  | k + 1, h =>
    if daysBefore year ⟨k + 1, h⟩ ≤ day then ⟨k + 1, h⟩ else lastMonth year day k (by omega)

def monthFromDay (year day : Int) : Fin 12 := lastMonth year day 11 (by decide)

/-- A month ends where the next one starts. -/
theorem daysBefore_succ (year : Int) {k : Nat} (h : k + 1 < 12) :
    daysBefore year ⟨k + 1, h⟩ = daysBefore year ⟨k, by omega⟩ + daysIn year ⟨k, by omega⟩ := by
  have hk : k < 11 := by omega
  interval_cases k <;> simp [daysBefore, daysIn] <;> omega

theorem lastMonth_bounds {year day : Int} (hfirst : 0 ≤ day) {k : Nat} (h : k < 12)
    (hlast : day < daysBefore year ⟨k, h⟩ + daysIn year ⟨k, h⟩) :
    daysBefore year (lastMonth year day k h) ≤ day ∧
      day < daysBefore year (lastMonth year day k h) + daysIn year (lastMonth year day k h) := by
  induction k with
  | zero => exact ⟨hfirst, hlast⟩
  | succ k ih =>
    unfold lastMonth
    split_ifs with hstart
    · exact ⟨hstart, hlast⟩
    · apply ih
      rw [← daysBefore_succ year h]
      omega

theorem month_bounds {year day : Int} (hfirst : 0 ≤ day) (hlast : day < 365 + leapDays year) :
    daysBefore year (monthFromDay year day) ≤ day ∧
      day < daysBefore year (monthFromDay year day) + daysIn year (monthFromDay year day) := by
  refine lastMonth_bounds hfirst _ ?_
  simp only [daysBefore, daysIn]
  simpa [add_right_comm] using hlast

/-! ## Dates -/

/-- A date, whose month is 0 for January. -/
structure Date where
  year : Int
  month : Fin 12
  day : Int
  inMonth : 1 ≤ day ∧ day ≤ daysIn year month
  deriving DecidableEq

/-- The number of a day that is given by a year, a month and a day of the month, where a day
behind the end of the month is one of a later month. -/
def makeDay (year : Int) (month : Fin 12) (day : Int) : Int :=
  dayFromYear year + daysBefore year month + day - 1

theorem dayFromYear_le_makeDay (year : Int) (month : Fin 12) {day : Int} (hday : 1 ≤ day) :
    dayFromYear year ≤ makeDay year month day := by
  have hleap := leapDays_bounds year
  have hdays : ∀ k : Fin 12, 0 ≤ [(0 : Int), 31, 59, 90, 120, 151, 181, 212, 243, 273, 304,
      334].getD k 0 := by decide
  have hmonth := hdays month
  unfold makeDay daysBefore
  split_ifs <;> omega

def Date.dayNumber (date : Date) : Int := makeDay date.year date.month date.day

theorem day_in_month (n : Int) :
    1 ≤ n - dayFromYear (yearFromDay n) - daysBefore (yearFromDay n)
        (monthFromDay (yearFromDay n) (n - dayFromYear (yearFromDay n))) + 1 ∧
      n - dayFromYear (yearFromDay n) - daysBefore (yearFromDay n)
        (monthFromDay (yearFromDay n) (n - dayFromYear (yearFromDay n))) + 1 ≤
        daysIn (yearFromDay n) (monthFromDay (yearFromDay n) (n - dayFromYear (yearFromDay n))) := by
  obtain ⟨hfirst, hlast⟩ := year_bounds n
  rw [dayFromYear_succ] at hlast
  have hmonth := @month_bounds (yearFromDay n) (n - dayFromYear (yearFromDay n)) (by omega) (by omega)
  omega

/-- The date of a day. -/
def dateOfDay (n : Int) : Date where
  year := yearFromDay n
  month := monthFromDay (yearFromDay n) (n - dayFromYear (yearFromDay n))
  day := n - dayFromYear (yearFromDay n) - daysBefore (yearFromDay n)
    (monthFromDay (yearFromDay n) (n - dayFromYear (yearFromDay n))) + 1
  inMonth := day_in_month n

@[simp] theorem dayNumber_dateOfDay (n : Int) : (dateOfDay n).dayNumber = n := by
  simp only [Date.dayNumber, makeDay, dateOfDay]
  omega

example : (dateOfDay 0).year = 1970 ∧ (dateOfDay 0).month = 0 ∧ (dateOfDay 0).day = 1 := by decide

end calendar
