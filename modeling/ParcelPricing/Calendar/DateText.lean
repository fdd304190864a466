import ParcelPricing.Calendar.Date
import ParcelPricing.Text.Blank
import ParcelPricing.Text.Numeral

namespace ParcelPricing.CalendarDate
open Text

/-- Four digits; a year that does not fit four digits carries its sign. -/
def yearText (year : Int) : List Char :=
  if year < 0 then '-' :: padded 4 year.natAbs
  else if year ≤ 9999 then padded 4 year.natAbs
  else '+' :: padded 4 year.natAbs

def chars (d : CalendarDate) : List Char :=
  yearText d.year ++ '-' :: padded 2 d.month ++ '-' :: padded 2 d.day

/-- A sign frees the year from its limit of four digits. -/
def readYear : List Char → Option (Int × List Char)
  | '-' :: text => (readDigits text.length text).map fun (n, rest) => (-n, rest)
  | '+' :: text => (readDigits text.length text).map fun (n, rest) => (n, rest)
  | text => (readDigits 4 text).map fun (n, rest) => (n, rest)

def read? (text : List Char) : Option CalendarDate := do
  let (year, text) ← readYear (skipBlank text)
  let text ← expect '-' text
  let (month, text) ← readDigits 2 (skipBlank text)
  let text ← expect '-' text
  let (day, text) ← readDigits 2 (skipBlank text)
  guard (text = [])
  let date ← of? year month day
  guard date.InRange
  return date

end ParcelPricing.CalendarDate
