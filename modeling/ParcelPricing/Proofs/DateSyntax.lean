import ParcelPricing.Proofs.DateText

/-! No text is read in both forms of a date. -/
namespace ParcelPricing
open Text

namespace CalendarDate

/-- A plain date ends with its day, and so a timestamp is none. -/
theorem read?_eq_none_of_timestamp {text : List Char} {t : Timestamp}
    (h : Timestamp.read? text = some t) : read? text = none := by
  obtain ⟨hfrom, hto, ⟨-, -, -, -, -⟩, -⟩ := Timestamp.read?_eq_some_iff.1 h
  have hyear : AreDigits 4 (padded 4 t.date.year.natAbs) :=
    areDigits_padded (by decide) (by omega)
  rw [Timestamp.chars_append_of_bounds hfrom hto]
  simp only [read?, readYear_skipBlank_append hyear, expect, if_true, Option.bind_eq_bind,
    Option.bind_some, readDigits_skipBlank_padded t.date.month_lt,
    readDigits_skipBlank_padded t.date.day_lt, guard, List.cons_append, reduceCtorEq, if_false]
  rfl

end CalendarDate

namespace ShipDate

/-- A date read with its two forms tried the other way round. -/
def readTimestampFirst (text : String) : ShipDate :=
  match Timestamp.read? text.toList with
  | some timestamp => valid timestamp.utcDate
  | none =>
    match CalendarDate.read? text.toList with
    | some date => valid date
    | none => unreadable text

theorem readTimestampFirst_eq (text : String) : readTimestampFirst text = read text := by
  rw [readTimestampFirst, read]
  cases h : Timestamp.read? text.toList with
  | none => rfl
  | some timestamp => rw [CalendarDate.read?_eq_none_of_timestamp h]

/-- Every date is read from its own text, and what was read from any text is read once more from its
own. No text is both a plain date and a timestamp. -/
theorem dates_survive :
    (∀ d : CalendarDate, d.InRange → read (text (.valid d)) = .valid d) ∧
      ∀ raw : String, read (read raw).text = read raw ∧
        ¬ ((CalendarDate.read? raw.toList).isSome ∧ (Timestamp.read? raw.toList).isSome) ∧
        readTimestampFirst raw = read raw := by
  refine ⟨fun d h => read_text_of_inRange h, fun raw => ⟨read_text_read raw, ?_,
    readTimestampFirst_eq raw⟩⟩
  rintro ⟨hdate, htimestamp⟩
  obtain ⟨t, ht⟩ := Option.isSome_iff_exists.1 htimestamp
  rw [CalendarDate.read?_eq_none_of_timestamp ht] at hdate
  cases hdate

/-- The last day of a leap February before the year 0, the last date of all, a timestamp that falls into
another year in UTC, and a text that is neither. -/
theorem dates_survive_of_ends :
    let february : CalendarDate := ⟨-4, 2, 29, by decide, by decide⟩
    let last : CalendarDate := ⟨262142, 12, 31, by decide, by decide⟩
    read (text (.valid february)) = .valid february ∧ text (.valid february) = "-0004-02-29" ∧
      read (text (.valid last)) = .valid last ∧
      (read "9999-12-31T23:30:00-01:00").text = "+10000-01-01" ∧
      read (read "9999-12-31T23:30:00-01:00").text = read "9999-12-31T23:30:00-01:00" ∧
      readTimestampFirst "2015-02-29" = .unreadable "2015-02-29" := by
  intro february last
  obtain ⟨hwritten, hread⟩ := dates_survive
  exact ⟨hwritten february (by decide), by decide +kernel, hwritten last (by decide),
    by decide +kernel, (hread _).1, by decide +kernel⟩

end ShipDate

end ParcelPricing
