/-! Days of the proleptic Gregorian calendar. The first of January of year 1 is day 1. -/
namespace ParcelPricing

def isLeapYear (year : Int) : Bool := year % 4 = 0 && (year % 100 ≠ 0 || year % 400 = 0)

def daysInMonth (year : Int) : Nat → Nat
  | 2 => if isLeapYear year then 29 else 28
  | 4 | 6 | 9 | 11 => 30
  | _ => 31

theorem one_le_daysInMonth (year : Int) (month : Nat) : 1 ≤ daysInMonth year month := by
  unfold daysInMonth
  split
  · split <;> decide
  all_goals decide

theorem daysInMonth_le (year : Int) (month : Nat) : daysInMonth year month ≤ 31 := by
  unfold daysInMonth
  split
  · split <;> decide
  all_goals decide

structure CalendarDate where
  year : Int
  month : Nat
  day : Nat
  month_bounds : 1 ≤ month ∧ month ≤ 12
  day_bounds : 1 ≤ day ∧ day ≤ daysInMonth year month
deriving DecidableEq

namespace CalendarDate

def of? (year : Int) (month day : Nat) : Option CalendarDate :=
  if h : (1 ≤ month ∧ month ≤ 12) ∧ 1 ≤ day ∧ day ≤ daysInMonth year month then
    some ⟨year, month, day, h.1, h.2⟩
  else none

theorem month_lt (d : CalendarDate) : d.month < 100 := by
  have hbounds := d.month_bounds
  omega

theorem day_lt (d : CalendarDate) : d.day < 100 := by
  have hbounds := d.day_bounds
  have hlast := daysInMonth_le d.year d.month
  omega

theorem of?_self (d : CalendarDate) : of? d.year d.month d.day = some d :=
  dif_pos ⟨d.month_bounds, d.day_bounds⟩

theorem of?_eq_some {year : Int} {month day : Nat} {d : CalendarDate}
    (h : of? year month day = some d) : d.year = year ∧ d.month = month ∧ d.day = day := by
  rw [of?] at h
  split at h
  · obtain rfl := Option.some.inj h
    exact ⟨rfl, rfl, rfl⟩
  · cases h

/-- The years that dates may be written in. -/
def InRange (d : CalendarDate) : Prop := -262143 ≤ d.year ∧ d.year ≤ 262142

instance (d : CalendarDate) : Decidable d.InRange := inferInstanceAs (Decidable (_ ∧ _))

def next (d : CalendarDate) : CalendarDate :=
  if h : d.day < daysInMonth d.year d.month then
    { d with day := d.day + 1, day_bounds := ⟨by omega, h⟩ }
  else if h : d.month < 12 then
    ⟨d.year, d.month + 1, 1, by omega, by simp [one_le_daysInMonth]⟩
  else
    ⟨d.year + 1, 1, 1, by decide, by simp [one_le_daysInMonth]⟩

def previous (d : CalendarDate) : CalendarDate :=
  if h : 1 < d.day then
    { d with day := d.day - 1, day_bounds := ⟨by omega, by have := d.day_bounds; omega⟩ }
  else if h : 1 < d.month then
    ⟨d.year, d.month - 1, daysInMonth d.year (d.month - 1), by have := d.month_bounds; omega,
      one_le_daysInMonth _ _, Nat.le_refl _⟩
  else
    ⟨d.year - 1, 12, 31, by decide, by decide, by simp [daysInMonth]⟩

def addDays (d : CalendarDate) : Int → CalendarDate
  | .ofNat n => Nat.repeat next n d
  | .negSucc n => Nat.repeat previous (n + 1) d

/-- The days of the first `months` months of a year. -/
def daysThrough (year : Int) : Nat → Nat
  | 0 => 0
  | months + 1 => daysThrough year months + daysInMonth year (months + 1)

/-- The days of all years before this one, counted from year 1. -/
def daysBefore (year : Int) : Int :=
  365 * (year - 1) + (year - 1) / 4 - (year - 1) / 100 + (year - 1) / 400

def dayNumber (d : CalendarDate) : Int :=
  daysBefore d.year + daysThrough d.year (d.month - 1) + d.day

end CalendarDate

end ParcelPricing
