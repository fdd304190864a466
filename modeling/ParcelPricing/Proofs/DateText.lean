import Mathlib.Data.Option.Basic
import ParcelPricing.Proofs.DayNumber
import ParcelPricing.Proofs.TimestampText
import ParcelPricing.Shipment.ShipDate

/-! A date is read as the one that was written, in every year. -/
namespace ParcelPricing
open Text

namespace CalendarDate

theorem skipBlank_append_of_isDigit {digits : List Char} (hdigits : ∀ c ∈ digits, c.isDigit = true)
    (hne : digits ≠ []) (rest : List Char) : skipBlank (digits ++ rest) = digits ++ rest := by
  obtain ⟨c, cs, rfl⟩ := List.exists_cons_of_ne_nil hne
  have hc : isBlank c = false := isBlank_of_isDigit (hdigits c List.mem_cons_self)
  rw [skipBlank, List.cons_append, List.dropWhile_cons_of_neg (by simp [hc])]

/-- A year without a sign has four digits at most. -/
theorem readYear_append_of_isDigit {digits : List Char}
    (hdigits : ∀ c ∈ digits, c.isDigit = true) (hne : digits ≠ []) (rest : List Char) :
    readYear (digits ++ rest) = (readDigits 4 (digits ++ rest)).map fun (n, rest) => (n, rest) := by
  obtain ⟨c, cs, rfl⟩ := List.exists_cons_of_ne_nil hne
  have hc := hdigits c List.mem_cons_self
  rw [List.cons_append, readYear]
  · rintro text ⟨rfl, -⟩
    cases hc
  · rintro text ⟨rfl, -⟩
    cases hc

theorem readDigits_skipBlank_append {count : Nat} {digits : List Char} (h : AreDigits count digits)
    (hcount : 0 < count) (rest : List Char) :
    readDigits count (skipBlank (digits ++ rest)) = some (value digits, rest) := by
  rw [skipBlank_append_of_isDigit h.isDigit (h.ne_nil hcount), h.readDigits_append hcount]

theorem readYear_skipBlank_append {digits : List Char} (h : AreDigits 4 digits)
    (rest : List Char) : readYear (skipBlank (digits ++ rest)) = some ((value digits : Int), rest) := by
  have hne := h.ne_nil (by decide)
  rw [skipBlank_append_of_isDigit h.isDigit hne, readYear_append_of_isDigit h.isDigit hne,
    h.readDigits_append (by decide)]
  rfl

/-- Behind a sign all digits are read, and the hyphen ends them. -/
theorem readDigits_padded_hyphen (n : Nat) (rest : List Char) :
    readDigits (padded 4 n ++ '-' :: rest).length (padded 4 n ++ '-' :: rest) =
      some (n, '-' :: rest) := by
  have hstop : ∀ c ∈ ('-' :: rest).head?, c.isDigit = false := by
    rintro c hc
    cases hc
    rfl
  rw [readDigits_append (fun c => isDigit_of_mem_padded) (padded_ne_nil 4 n) (by simp)
    (Or.inr hstop), value_padded]

theorem readYear_yearText (year : Int) (rest : List Char) :
    readYear (yearText year ++ '-' :: rest) = some (year, '-' :: rest) := by
  rw [yearText]
  split
  · have hyear : -(year.natAbs : Int) = year := by omega
    rw [List.cons_append, readYear, readDigits_padded_hyphen, Option.map_some]
    simp only [hyear]
  · have hyear : (year.natAbs : Int) = year := by omega
    split
    · have hfits : year.natAbs < 10 ^ 4 := by omega
      rw [readYear_append_of_isDigit (fun c => isDigit_of_mem_padded) (padded_ne_nil 4 _),
        readDigits_padded (by decide) hfits, Option.map_some]
      simp only [hyear]
    · rw [List.cons_append, readYear, readDigits_padded_hyphen, Option.map_some]
      simp only [hyear]

theorem skipBlank_yearText (year : Int) (rest : List Char) :
    skipBlank (yearText year ++ rest) = yearText year ++ rest := by
  rw [yearText]
  split
  · rfl
  · split
    · exact skipBlank_append_of_isDigit (fun c => isDigit_of_mem_padded) (padded_ne_nil 4 _) rest
    · rfl

theorem readDigits_skipBlank_padded {n : Nat} (h : n < 100) (rest : List Char) :
    readDigits 2 (skipBlank (padded 2 n ++ rest)) = some (n, rest) := by
  rw [readDigits_skipBlank_append (areDigits_padded (by decide) h) (by decide), value_padded]

/-- A date is read from its own text. -/
theorem read?_chars {d : CalendarDate} (h : d.InRange) : read? d.chars = some d := by
  have hlast := readDigits_skipBlank_padded d.day_lt []
  rw [List.append_nil] at hlast
  simp only [read?, chars, List.append_assoc, List.cons_append, skipBlank_yearText,
    readYear_yearText, expect, if_true, readDigits_skipBlank_padded d.month_lt, hlast, of?_self,
    Option.bind_eq_bind, Option.bind_some, guard, h, pure]

theorem inRange_of_read? {text : List Char} {d : CalendarDate} (h : read? text = some d) :
    d.InRange := by
  simp only [read?, Option.bind_eq_bind, Option.bind_eq_some_iff, Option.guard_eq_some'] at h
  obtain ⟨_, _, _, _, _, _, _, _, _, _, _, _, date, _, _, hrange, hdate⟩ := h
  obtain rfl : date = d := Option.some.inj hdate
  exact hrange

end CalendarDate

namespace Timestamp

/-- What a timestamp holds that was read from a text. -/
structure InBounds (t : Timestamp) : Prop where
  year : 0 ≤ t.date.year ∧ t.date.year ≤ 9999
  hour : t.hour < 24
  minute : t.minute < 60
  second : t.second ≤ 60
  offset : -1440 < t.offset ∧ t.offset < 1440

theorem Spells.inBounds {text : List Char} {t : Timestamp} (h : t.Spells text) : t.InBounds := by
  obtain ⟨hfrom, hto, ⟨-, hhour, hminute, hsecond, -⟩, hoffset⟩ := h
  exact ⟨⟨hfrom, hto⟩, hhour, hminute, hsecond, hoffset.bounds⟩

/-- In UTC a timestamp falls on its own day or on a day beside it. -/
theorem day_bounds {t : Timestamp} (h : t.InBounds) :
    -1 ≤ (t.secondOfDay - t.offset * 60) / 86400 ∧
      (t.secondOfDay - t.offset * 60) / 86400 ≤ 1 := by
  obtain ⟨-, hhour, hminute, -, hoffset⟩ := h
  unfold secondOfDay
  omega

/-- The local date, or a day beside it. -/
theorem utcDate_or {t : Timestamp} (h : t.InBounds) :
    t.utcDate = t.date ∨ t.date.Precedes t.utcDate ∨ t.utcDate.Precedes t.date :=
  t.date.addDays_of_bounds (day_bounds h).1 (day_bounds h).2

theorem inRange_utcDate {t : Timestamp} (h : t.InBounds) : t.utcDate.InRange := by
  have hyear := h.year
  unfold CalendarDate.InRange
  rcases utcDate_or h with hsame | hnext | hprevious
  · rw [hsame]
    omega
  · have hbounds := hnext.year_bounds
    omega
  · have hbounds := hprevious.year_bounds
    omega

end Timestamp

namespace ShipDate

/-- Every date that is read lies in the range of years that can be written. -/
theorem inRange_of_read {text : String} {d : CalendarDate} (h : read text = .valid d) :
    d.InRange := by
  unfold read at h
  split at h
  · rename_i date hdate
    cases h
    exact CalendarDate.inRange_of_read? hdate
  · split at h
    · rename_i timestamp htimestamp
      cases h
      exact Timestamp.inRange_utcDate
        (Timestamp.read?_eq_some_iff.1 htimestamp).inBounds
    · cases h

theorem read_text_of_inRange {d : CalendarDate} (h : d.InRange) :
    read (text (.valid d)) = .valid d := by
  unfold read text
  rw [String.toList_ofList, CalendarDate.read?_chars h]

theorem eq_of_read_eq_unreadable {raw rest : String} (h : read raw = .unreadable rest) :
    rest = raw := by
  unfold read at h
  split at h
  · cases h
  · split at h
    · cases h
    · cases h
      rfl

/-- What was read, be it a date or not, is read once more from its own text. -/
theorem read_text_read (raw : String) : read (read raw).text = read raw := by
  cases h : read raw with
  | valid d => exact read_text_of_inRange (inRange_of_read h)
  | unreadable rest =>
    obtain rfl := eq_of_read_eq_unreadable h
    exact h

end ShipDate

end ParcelPricing
