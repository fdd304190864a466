import ParcelPricing.Proofs.DateSyntax

/-! The date of a timestamp depends on the instant alone. -/
namespace ParcelPricing

namespace CalendarDate
variable {a b d : CalendarDate} {instant : Int}

/-- The seconds of a day in UTC, counted as in `Timestamp.instant`. -/
def Holds (d : CalendarDate) (instant : Int) : Prop :=
  d.dayNumber * 86400 ≤ instant ∧ instant < (d.dayNumber + 1) * 86400

theorem Holds.eq (ha : a.Holds instant) (hb : b.Holds instant) : a = b := by
  unfold Holds at ha hb
  exact dayNumber_injective (by omega)

end CalendarDate

namespace Timestamp
variable {text : List Char} {t u : Timestamp}

theorem holds_utcDate (t : Timestamp) : t.utcDate.Holds t.instant := by
  have hmoved := t.date.dayNumber_addDays ((t.secondOfDay - t.offset * 60) / 86400)
  unfold CalendarDate.Holds utcDate instant
  omega

theorem holds_instant_iff {d : CalendarDate} : d.Holds t.instant ↔ d = t.utcDate := by
  refine ⟨fun h => h.eq t.holds_utcDate, ?_⟩
  rintro rfl
  exact t.holds_utcDate

theorem utcDate_eq_of_instant_eq (h : t.instant = u.instant) : t.utcDate = u.utcDate := by
  have ht := t.holds_utcDate
  rw [h] at ht
  exact ht.eq u.holds_utcDate

/-- Without an offset the day is the local one. -/
theorem Spells.utcDate_eq (h : t.Spells text) (hoffset : t.offset = 0) : t.utcDate = t.date := by
  obtain ⟨-, hhour, hminute, -, -⟩ := h.inBounds
  have hday : (t.secondOfDay - t.offset * 60) / 86400 = 0 := by
    rw [hoffset, secondOfDay]
    omega
  rw [utcDate, hday]
  rfl

end Timestamp

namespace ShipDate

theorem read_of_spells {raw : String} {t : Timestamp} (h : t.Spells raw.toList) :
    read raw = .valid t.utcDate := by
  rw [← Timestamp.read?_eq_some_iff] at h
  rw [read, CalendarDate.read?_eq_none_of_timestamp h, h]

/-- A timestamp is read as the day in UTC that holds its instant, which is the local day or one
beside it, so all texts of an instant give one period. -/
theorem zone_independent :
    (∀ (raw : String) (t : Timestamp),
        Timestamp.read? raw.toList = some t ↔ t.Spells raw.toList) ∧
      (∀ (raw : String) (t : Timestamp), t.Spells raw.toList →
        ∃ d, read raw = .valid d ∧ (∀ day : CalendarDate, day.Holds t.instant ↔ day = d) ∧
          (d = t.date ∨ t.date.Precedes d ∨ d.Precedes t.date)) ∧
      (∀ (a b : String) (t u : Timestamp), t.Spells a.toList → u.Spells b.toList →
        t.instant = u.instant →
          ∃ d, read a = .valid d ∧ read b = .valid d ∧ (read a).period = .month d.year d.month ∧
            (read b).period = (read a).period) ∧
      ∀ (d : CalendarDate) (hour minute second : Nat) (time : List Char) (mark : Char),
        0 ≤ d.year → d.year ≤ 9999 → Timestamp.SpellsTime hour minute second time →
          mark = 'Z' ∨ mark = 'z' →
            read (.ofList (d.chars ++ (time ++ [mark]))) = .valid d ∧
              read (.ofList d.chars) = .valid d := by
  refine ⟨fun raw t => Timestamp.read?_eq_some_iff, fun raw t h => ?_, fun a b t u ha hb hsame => ?_,
    fun d hour minute second time mark hfrom hto htime hmark => ?_⟩
  · exact ⟨t.utcDate, read_of_spells h, fun day => Timestamp.holds_instant_iff,
      Timestamp.utcDate_or h.inBounds⟩
  · have hdate := Timestamp.utcDate_eq_of_instant_eq hsame
    rw [read_of_spells ha, read_of_spells hb, ← hdate]
    exact ⟨t.utcDate, rfl, rfl, rfl, rfl⟩
  · have hspells : (⟨d, hour, minute, second, 0⟩ : Timestamp).Spells (d.chars ++ (time ++ [mark])) :=
      .mk hfrom hto htime (.utc hmark)
    have hrange : d.InRange := ⟨by omega, by omega⟩
    refine ⟨?_, read_text_of_inRange hrange⟩
    rw [← String.toList_ofList (l := d.chars ++ (time ++ [mark]))] at hspells
    rw [read_of_spells hspells, hspells.utcDate_eq rfl]

/-- A last evening of the year 9999 west of UTC, with a leap second and with the other minus sign,
and a first morning of the year 0 east of it. -/
theorem zone_independent_of_evenings :
    let leap : Timestamp := ⟨⟨9999, 12, 31, by decide, by decide⟩, 23, 30, 60, -60⟩
    let other : Timestamp := ⟨⟨9999, 12, 31, by decide, by decide⟩, 23, 45, 59, -45⟩
    let morning : Timestamp := ⟨⟨0, 1, 1, by decide, by decide⟩, 0, 15, 0, 1439⟩
    let february : CalendarDate := ⟨2024, 2, 29, by decide, by decide⟩
    (leap.Spells "9999-12-31T23:30:60.25-01:00".toList ∧
        other.Spells "9999-12-31t23:45:59−00:45".toList ∧ leap.instant = other.instant ∧
        (read "9999-12-31T23:30:60.25-01:00").period = .month 10000 1 ∧
        (read "9999-12-31t23:45:59−00:45").period = .month 10000 1) ∧
      (morning.Spells "0000-01-01 00:15:00+23:59".toList ∧
        (read "0000-01-01 00:15:00+23:59").text = "-0001-12-31" ∧
        ∃ d, read "0000-01-01 00:15:00+23:59" = .valid d ∧
          (d = morning.date ∨ morning.date.Precedes d ∨ d.Precedes morning.date)) ∧
      Timestamp.SpellsTime 12 0 0 "T12:00:00".toList ∧
        read (.ofList (february.chars ++ ("T12:00:00".toList ++ ['z']))) = .valid february := by
  intro leap other morning february
  obtain ⟨hspells, hday, hsame, hutc⟩ := zone_independent
  have hleap : leap.Spells "9999-12-31T23:30:60.25-01:00".toList := (hspells _ _).1 rfl
  have hother : other.Spells "9999-12-31t23:45:59−00:45".toList := (hspells _ _).1 rfl
  have hmorning : morning.Spells "0000-01-01 00:15:00+23:59".toList := (hspells _ _).1 rfl
  have hinstant : leap.instant = other.instant := by decide +kernel
  have hperiod : (read "9999-12-31T23:30:60.25-01:00").period = .month 10000 1 := by
    decide +kernel
  have hnoon : Timestamp.SpellsTime 12 0 0 "T12:00:00".toList :=
    .mk (Or.inl rfl) (by decide) (by decide) (by decide) .none
  obtain ⟨_, -, -, -, hother_period⟩ := hsame _ _ leap other hleap hother hinstant
  obtain ⟨d, hread, -, hbeside⟩ := hday _ morning hmorning
  exact ⟨⟨hleap, hother, hinstant, hperiod, hother_period.trans hperiod⟩,
    ⟨hmorning, by decide +kernel, d, hread, hbeside⟩, hnoon,
    (hutc february 12 0 0 _ 'z' (by decide) (by decide) hnoon (Or.inr rfl)).1⟩

end ShipDate

end ParcelPricing
