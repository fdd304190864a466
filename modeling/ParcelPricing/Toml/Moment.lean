import ParcelPricing.Calendar.DateText

/-! Dates and times of TOML, which are texts as settings. -/
namespace ParcelPricing.Toml
open Text

def readDate (text : List Char) : Option (CalendarDate × List Char) := do
  let (year, rest) ← readExactly 4 text
  let (month, rest) ← readExactly 2 (← expect '-' rest)
  let (day, rest) ← readExactly 2 (← expect '-' rest)
  return (← CalendarDate.of? year month day, rest)

/-- The text of a fraction, with its point. -/
def fractionText (digits : List Char) : List Char :=
  match ((digits.take 9).reverse.dropWhile (· = '0')).reverse with
  | [] => ['.', '0']
  | digits => '.' :: digits

/-- Seconds and their fraction, which may be left out. A minute may have a second 60. -/
def readSeconds : List Char → Option (List Char × List Char)
  | ':' :: text => do
    let (second, rest) ← readExactly 2 text
    guard (second ≤ 60)
    match rest with
    | '.' :: rest =>
      let digits := leadingDigits rest
      guard (digits ≠ [])
      return (':' :: padded 2 second ++ fractionText digits, rest.drop digits.length)
    | rest => return (':' :: padded 2 second, rest)
  | text => some ([], text)

/-- Hours and minutes, with a colon between them. -/
def readMinutes (text : List Char) : Option (List Char × List Char) := do
  let (hour, rest) ← readExactly 2 text
  let (minute, rest) ← readExactly 2 (← expect ':' rest)
  guard (hour ≤ 23 ∧ minute ≤ 59)
  return (padded 2 hour ++ ':' :: padded 2 minute, rest)

def readTime (text : List Char) : Option (List Char × List Char) := do
  let (minutes, rest) ← readMinutes text
  let (seconds, rest) ← readSeconds rest
  return (minutes ++ seconds, rest)

/-- The offset from UTC, which may be left out. None at all has a plus. -/
def readOffset : List Char → Option (List Char × List Char)
  | 'Z' :: rest | 'z' :: rest => some (['Z'], rest)
  | sign :: text =>
    if sign = '+' || sign = '-' then do
      let (offset, rest) ← readMinutes text
      return ((if offset = "00:00".toList then '+' else sign) :: offset, rest)
    else some ([], sign :: text)
  | [] => some ([], [])

/-- Where a time begins after a date: behind a `T`, or a space with a digit after it. -/
def timeMark? : List Char → Option (List Char)
  | ' ' :: digit :: rest => if digit.isDigit then some (digit :: rest) else none
  | mark :: rest => if mark = 'T' || mark = 't' then some rest else none
  | [] => none

/-- A date, a time, or both; both may have an offset. -/
def readMoment (text : List Char) : Option (List Char × List Char) :=
  match readDate text with
  | none => readTime text
  | some (date, rest) =>
    match timeMark? rest with
    | none => some (date.chars, rest)
    | some rest => do
      let (time, rest) ← readTime rest
      let (offset, rest) ← readOffset rest
      return (date.chars ++ 'T' :: time ++ offset, rest)

end ParcelPricing.Toml
