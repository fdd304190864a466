import ParcelPricing.Calendar.Date
import ParcelPricing.Text.Numeral

/-! Points in time as in RFC 3339, and the date in UTC of each. -/
namespace ParcelPricing
open Text

structure Timestamp where
  date : CalendarDate
  hour : Nat
  minute : Nat
  second : Nat
  /-- minutes east of UTC -/
  offset : Int

namespace Timestamp

/-- Seconds of the local clock since its midnight. A leap second counts as the one before it. -/
def secondOfDay (t : Timestamp) : Int := t.hour * 3600 + t.minute * 60 + min t.second 59

/-- Seconds in UTC, counted from the start of the last day of year 0. -/
def instant (t : Timestamp) : Int := t.date.dayNumber * 86400 + t.secondOfDay - t.offset * 60

/-- The local date, moved to the day that the instant falls on in UTC. -/
def utcDate (t : Timestamp) : CalendarDate :=
  t.date.addDays ((t.secondOfDay - t.offset * 60) / 86400)

def isDateTimeMark (c : Char) : Bool := c = 'T' || c = 't' || c = ' '

/-- A fraction of a second needs a digit; it does not move the instant. -/
def skipFraction : List Char → Option (List Char)
  | '.' :: text => (readDigits text.length text).map Prod.snd
  | text => some text

/-- `true` for east, `false` for west. The minus sign may be a hyphen or U+2212. -/
def isEast? (c : Char) : Option Bool :=
  if c = '+' then some true else if c = '-' || c = '\u2212' then some false else none

/-- The rest of the text, as an offset in minutes. -/
def readOffset : List Char → Option Int
  | ['Z'] | ['z'] => some 0
  | mark :: text => do
    let east ← isEast? mark
    let (hours, text) ← readExactly 2 text
    let text ← expect ':' text
    let (minutes, text) ← readExactly 2 text
    guard (text = [] ∧ hours < 24 ∧ minutes < 60)
    let offset : Int := hours * 60 + minutes
    return if east then offset else -offset
  | [] => none

def read? (text : List Char) : Option Timestamp := do
  let (year, text) ← readExactly 4 text
  let text ← expect '-' text
  let (month, text) ← readExactly 2 text
  let text ← expect '-' text
  let (day, text) ← readExactly 2 text
  let date ← CalendarDate.of? year month day
  let mark ← text.head?
  guard (isDateTimeMark mark)
  let (hour, text) ← readExactly 2 text.tail
  let text ← expect ':' text
  let (minute, text) ← readExactly 2 text
  let text ← expect ':' text
  let (second, text) ← readExactly 2 text
  guard (hour < 24 ∧ minute < 60 ∧ second ≤ 60)
  let offset ← readOffset (← skipFraction text)
  return ⟨date, hour, minute, second, offset⟩

end Timestamp

end ParcelPricing
