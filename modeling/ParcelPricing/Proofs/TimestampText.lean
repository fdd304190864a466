import Mathlib.Data.Option.Basic
import ParcelPricing.Calendar.DateText
import ParcelPricing.Calendar.Timestamp
import ParcelPricing.Proofs.Numeral

namespace ParcelPricing.Timestamp
open Text

/-- An offset in minutes: a letter for none, or a sign with hours and minutes. -/
inductive SpellsOffset : Int → List Char → Prop
  | utc {mark : Char} : mark = 'Z' ∨ mark = 'z' → SpellsOffset 0 [mark]
  | east {hours minutes : Nat} : hours < 24 → minutes < 60 →
      SpellsOffset (hours * 60 + minutes) ('+' :: (padded 2 hours ++ ':' :: padded 2 minutes))
  | west {sign : Char} {hours minutes : Nat} : sign = '-' ∨ sign = '\u2212' →
      hours < 24 → minutes < 60 →
      SpellsOffset (-(hours * 60 + minutes)) (sign :: (padded 2 hours ++ ':' :: padded 2 minutes))

inductive IsFraction : List Char → Prop
  | none : IsFraction []
  | digits {digits : List Char} : digits ≠ [] → (∀ c ∈ digits, c.isDigit = true) →
      IsFraction ('.' :: digits)

/-- A time of day behind a date, with the mark that parts them. -/
inductive SpellsTime (hour minute second : Nat) : List Char → Prop
  | mk {mark : Char} {fraction : List Char} : mark = 'T' ∨ mark = 't' ∨ mark = ' ' →
      hour < 24 → minute < 60 → second ≤ 60 → IsFraction fraction →
      SpellsTime hour minute second (mark :: (padded 2 hour ++ ':' :: (padded 2 minute ++
        ':' :: (padded 2 second ++ fraction))))

/-- The texts of a timestamp. -/
inductive Spells (t : Timestamp) : List Char → Prop
  | mk {time offset : List Char} : 0 ≤ t.date.year → t.date.year ≤ 9999 →
      SpellsTime t.hour t.minute t.second time → SpellsOffset t.offset offset →
      Spells t (t.date.chars ++ (time ++ offset))

variable {text rest : List Char} {offset : Int} {t : Timestamp}

theorem isEast?_eq_some_true {sign : Char} : isEast? sign = some true ↔ sign = '+' := by
  rw [isEast?]
  split
  · simp_all
  · split <;> simp_all

theorem isEast?_eq_some_false {sign : Char} :
    isEast? sign = some false ↔ sign = '-' ∨ sign = '\u2212' := by
  rw [isEast?]
  split
  · simp_all
  · split <;> simp_all

/-- Behind a sign stand hours and minutes. -/
theorem readOffset_sign_eq_some_iff {sign : Char} (hne : text ≠ []) :
    readOffset (sign :: text) = some offset ↔ ∃ east hours minutes, isEast? sign = some east ∧
      hours < 24 ∧ minutes < 60 ∧ text = padded 2 hours ++ ':' :: padded 2 minutes ∧
      offset = if east then (hours * 60 + minutes : Int) else -(hours * 60 + minutes) := by
  have htwo : 0 < 2 := by decide
  rw [readOffset]
  · simp only [Option.bind_eq_bind, Option.bind_eq_some_iff, Option.guard_eq_some', Prod.exists,
      readExactly_eq_some_iff htwo, expect_eq_some_iff]
    constructor
    · rintro ⟨east, hsign, hours, _, ⟨-, rfl⟩, _, rfl, minutes, _, ⟨-, rfl⟩, _,
        ⟨rfl, hhours, hminutes⟩, hoffset⟩
      rw [List.append_nil]
      exact ⟨east, hours, minutes, hsign, hhours, hminutes, rfl, (Option.some.inj hoffset).symm⟩
    · rintro ⟨east, hours, minutes, hsign, hhours, hminutes, rfl, rfl⟩
      exact ⟨east, hsign, hours, _, ⟨by omega, rfl⟩, _, rfl, minutes, [],
        ⟨by omega, (List.append_nil _).symm⟩, (), ⟨rfl, hhours, hminutes⟩, rfl⟩
  · simp [hne]
  · simp [hne]

theorem spellsOffset_of_read (h : readOffset text = some offset) : SpellsOffset offset text := by
  match text, h with
  | [mark], h =>
    by_cases hmark : mark = 'Z' ∨ mark = 'z'
    · obtain rfl : offset = 0 := by
        rcases hmark with rfl | rfl
        · exact (Option.some.inj h).symm
        · exact (Option.some.inj h).symm
      exact .utc hmark
    · rw [not_or] at hmark
      rw [readOffset] at h
      · simp [readExactly, leadingDigits] at h
      · exact fun hz _ => hmark.1 hz
      · exact fun hz _ => hmark.2 hz
  | sign :: c :: text, h =>
    obtain ⟨east, hours, minutes, hsign, hhours, hminutes, htext, hoffset⟩ :=
      (readOffset_sign_eq_some_iff (List.cons_ne_nil c text)).1 h
    rw [htext, hoffset]
    cases east with
    | true =>
      rw [isEast?_eq_some_true.1 hsign]
      exact .east hhours hminutes
    | false => exact .west (isEast?_eq_some_false.1 hsign) hhours hminutes

theorem SpellsOffset.read (h : SpellsOffset offset text) : readOffset text = some offset := by
  cases h with
  | utc hmark =>
    rcases hmark with rfl | rfl
    · rfl
    · rfl
  | @east hours minutes hhours hminutes =>
    rw [readOffset_sign_eq_some_iff (by simp)]
    exact ⟨true, hours, minutes, rfl, hhours, hminutes, rfl, rfl⟩
  | @west sign hours minutes hsign hhours hminutes =>
    rw [readOffset_sign_eq_some_iff (by simp)]
    exact ⟨false, hours, minutes, isEast?_eq_some_false.2 hsign, hhours, hminutes, rfl, rfl⟩

/-- No offset goes on with a fraction that stands before it. -/
theorem SpellsOffset.head (h : SpellsOffset offset text) :
    text.head? ≠ some '.' ∧ ∀ c ∈ text.head?, c.isDigit = false := by
  cases h with
  | utc hmark =>
    rcases hmark with rfl | rfl
    · simp
    · simp
  | east => simp
  | west hsign =>
    rcases hsign with rfl | rfl
    · simp
    · simp

theorem SpellsOffset.bounds (h : SpellsOffset offset text) : -1440 < offset ∧ offset < 1440 := by
  cases h with
  | utc => decide
  | east => omega
  | west => omega

theorem isFraction_of_skipFraction (h : skipFraction text = some rest) :
    ∃ fraction, IsFraction fraction ∧ text = fraction ++ rest := by
  unfold skipFraction at h
  split at h
  · obtain ⟨⟨n, _⟩, hread, rfl⟩ := Option.map_eq_some_iff.1 h
    obtain ⟨digits, -, hne, rfl, hdigits, -⟩ := readDigits_eq_some hread
    exact ⟨'.' :: digits, .digits hne hdigits, rfl⟩
  · cases h
    exact ⟨[], .none, rfl⟩

theorem IsFraction.skip {fraction : List Char} (h : IsFraction fraction)
    (hrest : SpellsOffset offset rest) : skipFraction (fraction ++ rest) = some rest := by
  cases h with
  | none =>
    rw [List.nil_append, skipFraction]
    rintro text rfl
    exact hrest.head.1 rfl
  | @digits digits hne hdigits =>
    rw [List.cons_append, skipFraction, readDigits_append hdigits hne (by simp)
      (Or.inr hrest.head.2)]
    rfl

theorem isDateTimeMark_iff {mark : Char} :
    isDateTimeMark mark = true ↔ mark = 'T' ∨ mark = 't' ∨ mark = ' ' := by
  simp [isDateTimeMark, or_assoc]

/-- A year of four digits is written without a sign. -/
theorem chars_append_of_bounds {d : CalendarDate} (hfrom : 0 ≤ d.year) (hto : d.year ≤ 9999)
    (rest : List Char) : d.chars ++ rest = padded 4 d.year.natAbs ++ '-' :: (padded 2 d.month ++
      '-' :: (padded 2 d.day ++ rest)) := by
  simp only [CalendarDate.chars, CalendarDate.yearText, if_neg (Int.not_lt.2 hfrom), if_pos hto,
    List.append_assoc, List.cons_append]

theorem spells_of_read? (h : read? text = some t) : t.Spells text := by
  have htwo : 0 < 2 := by decide
  unfold read? at h
  obtain ⟨⟨year, _⟩, hyear, h⟩ := Option.bind_eq_some_iff.1 h
  obtain ⟨_, hhyphen, h⟩ := Option.bind_eq_some_iff.1 h
  obtain ⟨⟨month, _⟩, hmonth, h⟩ := Option.bind_eq_some_iff.1 h
  obtain ⟨_, hhyphen', h⟩ := Option.bind_eq_some_iff.1 h
  obtain ⟨⟨day, _⟩, hday, h⟩ := Option.bind_eq_some_iff.1 h
  obtain ⟨date, hdate, h⟩ := Option.bind_eq_some_iff.1 h
  obtain ⟨mark, hclock, h⟩ := Option.bind_eq_some_iff.1 h
  obtain ⟨_, hmark, h⟩ := Option.bind_eq_some_iff.1 h
  obtain ⟨⟨hour, _⟩, hhour, h⟩ := Option.bind_eq_some_iff.1 h
  obtain ⟨_, hcolon, h⟩ := Option.bind_eq_some_iff.1 h
  obtain ⟨⟨minute, _⟩, hminute, h⟩ := Option.bind_eq_some_iff.1 h
  obtain ⟨_, hcolon', h⟩ := Option.bind_eq_some_iff.1 h
  obtain ⟨⟨second, _⟩, hsecond, h⟩ := Option.bind_eq_some_iff.1 h
  obtain ⟨_, htime, h⟩ := Option.bind_eq_some_iff.1 h
  obtain ⟨last, hskip, h⟩ := Option.bind_eq_some_iff.1 h
  obtain ⟨offset, hoffset, heq⟩ := Option.bind_eq_some_iff.1 h
  obtain rfl := Option.some.inj heq
  -- From the last part to the first, each is what its reader accepts.
  obtain ⟨fraction, hfraction, rfl⟩ := isFraction_of_skipFraction hskip
  obtain ⟨-, rfl⟩ := (readExactly_eq_some_iff htwo).1 hsecond
  obtain rfl := expect_eq_some hcolon'
  obtain ⟨-, rfl⟩ := (readExactly_eq_some_iff htwo).1 hminute
  obtain rfl := expect_eq_some hcolon
  obtain ⟨clock, rfl⟩ := List.head?_eq_some_iff.1 hclock
  obtain rfl := ((readExactly_eq_some_iff htwo).1 hhour).2
  obtain ⟨-, rfl⟩ := (readExactly_eq_some_iff htwo).1 hday
  obtain rfl := expect_eq_some hhyphen'
  obtain ⟨-, rfl⟩ := (readExactly_eq_some_iff htwo).1 hmonth
  obtain rfl := expect_eq_some hhyphen
  obtain ⟨hfits, rfl⟩ := (readExactly_eq_some_iff (by decide)).1 hyear
  obtain ⟨hsame, rfl, rfl⟩ := CalendarDate.of?_eq_some hdate
  have hfrom : 0 ≤ date.year := by omega
  have hto : date.year ≤ 9999 := by omega
  obtain ⟨hhour, hminute, hsecond⟩ := (Option.guard_eq_some' _).1 htime
  have hmark := isDateTimeMark_iff.1 ((Option.guard_eq_some' _).1 hmark)
  have hspells := Spells.mk (t := ⟨date, hour, minute, second, offset⟩) hfrom hto
    (.mk hmark hhour hminute hsecond hfraction) (spellsOffset_of_read hoffset)
  rw [chars_append_of_bounds hfrom hto, hsame, Int.natAbs_natCast] at hspells
  simpa only [List.append_assoc, List.cons_append] using hspells

theorem Spells.read_eq (h : t.Spells text) : read? text = some t := by
  obtain ⟨hfrom, hto, ⟨hmark, hhour, hminute, hsecond, hfraction⟩, hoffset⟩ := h
  have hdate : CalendarDate.of? (t.date.year.natAbs : Int) t.date.month t.date.day = some t.date := by
    rw [Int.natAbs_of_nonneg hfrom, CalendarDate.of?_self]
  have hyear : ∀ rest, readExactly 4 (padded 4 t.date.year.natAbs ++ rest) =
      some (t.date.year.natAbs, rest) :=
    fun rest => (readExactly_eq_some_iff (by decide)).2 ⟨by omega, rfl⟩
  have hpair : ∀ n < 100, ∀ rest, readExactly 2 (padded 2 n ++ rest) = some (n, rest) :=
    fun n hn rest => (readExactly_eq_some_iff (by decide)).2 ⟨hn, rfl⟩
  have hsep : ∀ c rest, expect c (c :: rest) = some rest := fun c rest => if_pos rfl
  rw [chars_append_of_bounds hfrom hto, List.cons_append, List.append_assoc, List.cons_append,
    List.append_assoc, List.cons_append, List.append_assoc]
  unfold read?
  refine Option.bind_eq_some_iff.2 ⟨_, hyear _, ?_⟩
  refine Option.bind_eq_some_iff.2 ⟨_, hsep _ _, ?_⟩
  refine Option.bind_eq_some_iff.2 ⟨_, hpair _ t.date.month_lt _, ?_⟩
  refine Option.bind_eq_some_iff.2 ⟨_, hsep _ _, ?_⟩
  refine Option.bind_eq_some_iff.2 ⟨_, hpair _ t.date.day_lt _, ?_⟩
  refine Option.bind_eq_some_iff.2 ⟨_, hdate, ?_⟩
  refine Option.bind_eq_some_iff.2 ⟨_, rfl, ?_⟩
  refine Option.bind_eq_some_iff.2 ⟨(), (Option.guard_eq_some' _).2 (isDateTimeMark_iff.2 hmark), ?_⟩
  refine Option.bind_eq_some_iff.2 ⟨_, hpair _ (by omega) _, ?_⟩
  refine Option.bind_eq_some_iff.2 ⟨_, hsep _ _, ?_⟩
  refine Option.bind_eq_some_iff.2 ⟨_, hpair _ (by omega) _, ?_⟩
  refine Option.bind_eq_some_iff.2 ⟨_, hsep _ _, ?_⟩
  refine Option.bind_eq_some_iff.2 ⟨_, hpair _ (by omega) _, ?_⟩
  refine Option.bind_eq_some_iff.2 ⟨(), (Option.guard_eq_some' _).2 ⟨hhour, hminute, hsecond⟩, ?_⟩
  refine Option.bind_eq_some_iff.2 ⟨_, hfraction.skip hoffset, ?_⟩
  exact Option.bind_eq_some_iff.2 ⟨_, hoffset.read, rfl⟩

/-- A text is read as a timestamp just if it is a text of that timestamp. -/
theorem read?_eq_some_iff : read? text = some t ↔ t.Spells text :=
  ⟨spells_of_read?, Spells.read_eq⟩

end ParcelPricing.Timestamp
