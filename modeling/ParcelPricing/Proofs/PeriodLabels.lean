import ParcelPricing.Proofs.JsonReport
import ParcelPricing.Proofs.TextReport

/-! A label names one period alone, also in the summary. -/
namespace ParcelPricing
open Text

namespace Text
variable {year year' rest rest' : List Char}

theorem hyphen_not_mem_padded (width n : Nat) : '-' ∉ padded width n := by
  intro hmem
  cases isDigit_of_mem_padded hmem

theorem padded_eq_padded_succ_iff {width n : Nat} (hwidth : 0 < width) :
    padded width n = padded (width + 1) n ↔ 10 ^ width ≤ n := by
  rw [padded_succ hwidth]
  split
  · rename_i hfits
    have hlonger : padded width n ≠ '0' :: padded width n := by
      intro h
      have hlength := congrArg List.length h
      simp at hlength
    exact iff_of_false hlonger (Nat.not_le.2 hfits)
  · rename_i hfull
    exact iff_of_true rfl (Nat.not_lt.1 hfull)

theorem takeWhile_append_hyphen {front : List Char} (h : '-' ∉ front) (back : List Char) :
    (front ++ '-' :: back).takeWhile (· ≠ '-') = front := by
  refine takeWhile_append_of_head (fun c hc => ?_) (fun c hc => ?_)
  · exact decide_eq_true fun heq => h (heq ▸ hc)
  · cases hc
    rfl

/-- If a text goes on from another one, the first hyphens of the two stand in one place. -/
theorem eq_of_prefix_hyphen {front front' : List Char} (h : '-' ∉ front) (h' : '-' ∉ front')
    (hbegins : front ++ '-' :: rest <+: front' ++ '-' :: rest') : front = front' := by
  obtain ⟨more, hmore⟩ := hbegins
  rw [List.append_assoc, List.cons_append] at hmore
  calc front = (front ++ '-' :: (rest ++ more)).takeWhile (· ≠ '-') :=
        (takeWhile_append_hyphen h _).symm
    _ = (front' ++ '-' :: rest').takeWhile (· ≠ '-') := by rw [hmore]
    _ = front' := takeWhile_append_hyphen h' _

/-- A year as it is written: a sign or a digit, and then no hyphen any more. -/
structure IsYear (year : List Char) : Prop where
  ne_nil : year ≠ []
  hyphen_not_mem_tail : '-' ∉ year.tail

theorem isYear_padded (width n : Nat) : IsYear (padded width n) :=
  ⟨padded_ne_nil width n, fun h => hyphen_not_mem_padded width n (List.mem_of_mem_tail h)⟩

theorem isYear_cons_padded (c : Char) (width n : Nat) : IsYear (c :: padded width n) :=
  ⟨List.cons_ne_nil _ _, hyphen_not_mem_padded width n⟩

/-- The hyphen after the year ends it, whatever follows. -/
theorem IsYear.eq_of_prefix_append (h : IsYear year) (h' : IsYear year')
    (hbegins : year ++ '-' :: rest <+: year' ++ '-' :: rest') : year = year' := by
  obtain ⟨c, digits, rfl⟩ := List.exists_cons_of_ne_nil h.ne_nil
  obtain ⟨d, digits', rfl⟩ := List.exists_cons_of_ne_nil h'.ne_nil
  obtain ⟨rfl, hdigits⟩ := List.cons_prefix_cons.1 hbegins
  exact congrArg (c :: ·)
    (eq_of_prefix_hyphen h.hyphen_not_mem_tail h'.hyphen_not_mem_tail hdigits)

end Text

namespace Period

def yearLabel (year : Int) : List Char :=
  if year < 0 then '-' :: padded 3 year.natAbs else padded 4 year.natAbs

theorem chars_month (year : Int) (number : Nat) :
    (month year number).chars = yearLabel year ++ '-' :: padded 2 number := rfl

theorem isYear_yearLabel (year : Int) : IsYear (yearLabel year) := by
  unfold yearLabel
  split
  · exact isYear_cons_padded '-' 3 _
  · exact isYear_padded 4 _

theorem yearLabel_injective : Function.Injective yearLabel := by
  intro year other h
  unfold yearLabel at h
  -- Years of different signs are told apart by the first character, others by their digits.
  split at h
  · split at h
    · have habs := eq_of_padded_eq (List.cons.inj h).2
      omega
    · exact absurd h.symm (padded_ne_cons rfl)
  · split at h
    · exact absurd h (padded_ne_cons rfl)
    · have habs := eq_of_padded_eq h
      omega

/-- No year begins with a letter. -/
theorem chars_month_ne_undated (year : Int) (number : Nat) :
    (month year number).chars ≠ undated.chars := by
  intro h
  rw [chars_month, yearLabel] at h
  split at h
  · cases h
  · obtain ⟨c, digits, hdigits⟩ := List.exists_cons_of_ne_nil (padded_ne_nil 4 year.natAbs)
    rw [hdigits] at h
    obtain ⟨rfl, -⟩ := List.cons.inj h
    exact padded_ne_cons rfl hdigits

theorem chars_injective : Function.Injective chars := by
  intro p q h
  cases p with
  | month year number =>
    cases q with
    | month year' number' =>
      -- A hyphen comes behind the year in both, and what is left after that is the month.
      have hyear : yearLabel year = yearLabel year' :=
        (isYear_yearLabel year).eq_of_prefix_append (isYear_yearLabel year')
          ⟨[], (List.append_nil _).trans h⟩
      rw [chars_month, chars_month, hyear] at h
      have hnumber := (List.cons.inj (List.append_cancel_left h)).2
      rw [yearLabel_injective hyear, eq_of_padded_eq hnumber]
    | undated => exact absurd h (chars_month_ne_undated year number)
  | undated =>
    cases q with
    | month year' number' => exact absurd h.symm (chars_month_ne_undated year' number')
    | undated => rfl

theorem text_inj {p q : Period} : p.text = q.text ↔ p = q :=
  String.ofList_inj.trans chars_injective.eq_iff

theorem isToken_chars (p : Period) : IsToken p.chars := by
  cases p with
  | month year number =>
    have hyear : Unbroken (yearLabel year) := by
      unfold yearLabel
      split
      · exact .cons rfl (unbroken_padded 3 _)
      · exact unbroken_padded 4 _
    exact ⟨by simp [chars_month], hyear.append (.cons rfl (unbroken_padded 2 _))⟩
  | undated => exact ⟨by decide, by decide⟩

/-- After a minus sign a label has room for one digit less than a date. -/
theorem yearLabel_eq_yearText_iff {year : Int} : yearLabel year = CalendarDate.yearText year ↔
    0 ≤ year ∧ year ≤ 9999 ∨ year ≤ -1000 := by
  unfold yearLabel CalendarDate.yearText
  by_cases hnegative : year < 0
  · rw [if_pos hnegative, if_pos hnegative, List.cons.injEq, and_iff_right rfl,
      padded_eq_padded_succ_iff (by decide)]
    omega
  · rw [if_neg hnegative, if_neg hnegative]
    split
    · exact iff_of_true rfl (by omega)
    · exact iff_of_false (padded_ne_cons rfl) (by omega)

end Period

namespace CalendarDate

theorem isYear_yearText (year : Int) : IsYear (yearText year) := by
  unfold yearText
  split
  · exact isYear_cons_padded '-' 4 _
  · split
    · exact isYear_padded 4 _
    · exact isYear_cons_padded '+' 4 _

theorem chars_eq (d : CalendarDate) :
    d.chars = yearText d.year ++ '-' :: (padded 2 d.month ++ '-' :: padded 2 d.day) := by
  simp [chars]

/-- The label of the month begins the text of the date if it has the same year, and only the day is
left then. -/
theorem chars_eq_label_iff (d : CalendarDate) :
    d.chars = (Period.month d.year d.month).chars ++ '-' :: padded 2 d.day ↔
      Period.yearLabel d.year = yearText d.year := by
  rw [chars_eq, Period.chars_month, List.append_assoc, List.cons_append,
    List.append_cancel_right_eq, eq_comm]

theorem label_prefix_iff (d : CalendarDate) :
    (Period.month d.year d.month).chars <+: d.chars ↔
      Period.yearLabel d.year = yearText d.year := by
  constructor
  · intro hbegins
    rw [chars_eq, Period.chars_month] at hbegins
    exact (Period.isYear_yearLabel d.year).eq_of_prefix_append (isYear_yearText d.year) hbegins
  · intro hyear
    exact ⟨_, ((chars_eq_label_iff d).2 hyear).symm⟩

end CalendarDate

namespace Report

/-- What the rows of a summary in text begin with. -/
def labels (text : List Char) : List (List Char) :=
  (lines text).filterMap fun line => (tokens line).head?

theorem entryLine_eq (row : Period × MonthEntry Float) : ∃ rest, '\n' ∉ rest ∧
    entryLine row = row.1.chars ++ ' ' :: rest := by
  have hcount := (unbroken_decimal row.2.large.toNat).newline_not_mem
  have hamount : '\n' ∉ amountText row.2.granted :=
    (Decimal.NumberFormat.unbroken_chars (by decide) _).newline_not_mem
  refine ⟨"large_la_poste=".toList ++ (decimal row.2.large.toNat ++ (" discount=".toList ++
    amountText row.2.granted)), ?_, ?_⟩
  · simp [hcount, hamount]
  · simp [entryLine]

theorem labels_textLines (rows : List (Period × MonthEntry Float)) :
    labels (textLines (rows.map entryLine)) = rows.map (·.1.chars) := by
  induction rows with
  | nil => rfl
  | cons row rows ih =>
    obtain ⟨rest, hrest, hline⟩ := entryLine_eq row
    have hlabel := row.1.isToken_chars
    have hnewline : '\n' ∉ entryLine row := by
      rw [hline]
      simp [hlabel.unbroken.newline_not_mem, hrest]
    have htokens : (tokens (entryLine row)).head? = some row.1.chars := by
      rw [hline, tokens_cons_blank hlabel rfl]
      rfl
    rw [List.map_cons, labels, lines_textLines_cons hnewline, List.filterMap_cons, htokens]
    exact congrArg (row.1.chars :: ·) ih

end Report

/-- No two periods have the same label, and the text of a date begins with that of its month just if
its year has four digits, or a minus sign and at least four. -/
theorem labels_unambiguous :
    (∀ p q : Period, p.text = q.text ↔ p = q) ∧
      (∀ l : Ledger Float,
        Report.labels (Report.renderLedger l .text) = l.toList.map (·.1.chars) ∧
          (∃ rows, Json.read? (Report.renderLedger l .json) = some (.array rows) ∧
            rows.map (Json.field? "period") = l.toList.map fun row => some (.string row.1.chars)) ∧
          (l.toList.map (·.1.chars)).Nodup) ∧
      ∀ d : CalendarDate, let date := ShipDate.valid d
        (date.text = date.period.text ++ "-" ++ .ofList (padded 2 d.day) ↔
            0 ≤ d.year ∧ d.year ≤ 9999 ∨ d.year ≤ -1000) ∧
          (date.period.text.toList <+: date.text.toList ↔
            ¬ (-999 ≤ d.year ∧ d.year ≤ -1 ∨ 10000 ≤ d.year)) := by
  refine ⟨fun p q => Period.text_inj, fun l => ⟨?_, ⟨l.toList.map Report.entryJson, ?_, ?_⟩, ?_⟩,
    fun d => ⟨?_, ?_⟩⟩
  · exact Report.labels_textLines l.toList
  · exact Json.read?_print (Report.proper_ledgerJson l)
  · rw [List.map_map]
    exact List.map_congr_left fun row _ => (Report.showsMonth_entryJson row).period
  · have hperiods : (l.toList.map Prod.fst).Nodup := l.months.nodup_keys
    have hlabels := hperiods.map Period.chars_injective
    rwa [List.map_map] at hlabels
  · rw [← Period.yearLabel_eq_yearText_iff, ← d.chars_eq_label_iff, ← String.toList_inj]
    simp [ShipDate.text, ShipDate.period, Period.text]
  · have hyear : ¬ (-999 ≤ d.year ∧ d.year ≤ -1 ∨ 10000 ≤ d.year) ↔
        0 ≤ d.year ∧ d.year ≤ 9999 ∨ d.year ≤ -1000 := by omega
    rw [hyear, ← Period.yearLabel_eq_yearText_iff, ← d.label_prefix_iff]
    simp [ShipDate.text, ShipDate.period, Period.text]

end ParcelPricing
