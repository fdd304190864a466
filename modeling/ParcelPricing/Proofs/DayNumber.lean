import ParcelPricing.Calendar.Date

namespace ParcelPricing.CalendarDate

variable {a b d : CalendarDate}

theorem eq_of_fields (hyear : a.year = b.year) (hmonth : a.month = b.month) (hday : a.day = b.day) :
    a = b := by
  cases a
  cases b
  subst hyear hmonth hday
  rfl

/-- `b` is the day after `a`: in the same month, over the end of a month, or over the end of a year. -/
inductive Precedes (a b : CalendarDate) : Prop
  | inMonth : b.year = a.year → b.month = a.month → b.day = a.day + 1 → Precedes a b
  | inYear : a.day = daysInMonth a.year a.month →
      b.year = a.year → b.month = a.month + 1 → b.day = 1 → Precedes a b
  | newYear : a.month = 12 → a.day = 31 →
      b.year = a.year + 1 → b.month = 1 → b.day = 1 → Precedes a b

theorem Precedes.year_bounds (h : a.Precedes b) : a.year ≤ b.year ∧ b.year ≤ a.year + 1 := by
  cases h with
  | inMonth hyear => omega
  | inYear _ hyear => omega
  | newYear _ _ hyear => omega

theorem precedes_next (d : CalendarDate) : d.Precedes d.next := by
  have hday := d.day_bounds
  have hmonth := d.month_bounds
  unfold next
  split
  · exact .inMonth rfl rfl rfl
  · split
    · exact .inYear (by omega) rfl rfl rfl
    · have hlast : d.month = 12 := by omega
      have hdays : daysInMonth d.year d.month = 31 := by rw [hlast]; rfl
      exact .newYear hlast (by omega) rfl rfl rfl

theorem previous_precedes (d : CalendarDate) : d.previous.Precedes d := by
  have hday := d.day_bounds
  have hmonth := d.month_bounds
  unfold previous
  split
  · exact .inMonth rfl rfl (show d.day = d.day - 1 + 1 by omega)
  · split
    · exact .inYear rfl rfl (show d.month = d.month - 1 + 1 by omega) (by omega)
    · exact .newYear rfl rfl (show d.year = d.year - 1 + 1 by omega) (by omega) (by omega)

/-- The days of a year are those of its twelve months. -/
theorem daysBefore_succ (year : Int) :
    daysBefore (year + 1) = daysBefore year + daysThrough year 12 := by
  have hmonths : daysThrough year 12 = if isLeapYear year then 366 else 365 := by
    simp only [daysThrough, daysInMonth]
    split <;> rfl
  rw [hmonths, daysBefore, daysBefore]
  simp only [isLeapYear, Bool.and_eq_true, Bool.or_eq_true, decide_eq_true_eq]
  split <;> omega

theorem daysThrough_month (d : CalendarDate) :
    daysThrough d.year d.month = daysThrough d.year (d.month - 1) + daysInMonth d.year d.month := by
  obtain ⟨month, hmonth⟩ := Nat.exists_eq_add_of_le' d.month_bounds.1
  rw [hmonth]
  rfl

theorem daysThrough_mono (year : Int) {m n : Nat} (h : m ≤ n) :
    daysThrough year m ≤ daysThrough year n := by
  induction h with
  | refl => exact Nat.le_refl _
  | step _ ih => exact Nat.le_trans ih (Nat.le_add_right _ _)

theorem dayNumber_of_precedes (h : a.Precedes b) : b.dayNumber = a.dayNumber + 1 := by
  have hmonth := a.daysThrough_month
  simp only [dayNumber]
  cases h with
  | inMonth hyear hsame hday =>
    rw [hyear, hsame, hday]
    omega
  | inYear hlast hyear hnext hday =>
    rw [hyear, hnext, hday, Nat.add_sub_cancel]
    omega
  | newYear hdecember hlast hyear hjanuary hday =>
    have hdays : daysInMonth a.year a.month = 31 := by rw [hdecember]; rfl
    have hyears := daysBefore_succ a.year
    have hnone : daysThrough b.year (b.month - 1) = 0 := by rw [hjanuary]; rfl
    rw [hdecember] at hmonth hdays ⊢
    rw [hyear, hday, hnone] at *
    omega

theorem dayNumber_next (d : CalendarDate) : d.next.dayNumber = d.dayNumber + 1 :=
  dayNumber_of_precedes d.precedes_next

theorem dayNumber_previous (d : CalendarDate) : d.previous.dayNumber = d.dayNumber - 1 := by
  have hstep := dayNumber_of_precedes d.previous_precedes
  omega

theorem dayNumber_repeat_next (d : CalendarDate) (n : Nat) :
    (Nat.repeat next n d).dayNumber = d.dayNumber + n := by
  induction n with
  | zero => exact (Int.add_zero _).symm
  | succ n ih =>
    rw [Nat.repeat, dayNumber_next, ih]
    omega

theorem dayNumber_repeat_previous (d : CalendarDate) (n : Nat) :
    (Nat.repeat previous n d).dayNumber = d.dayNumber - n := by
  induction n with
  | zero => exact (Int.sub_zero _).symm
  | succ n ih =>
    rw [Nat.repeat, dayNumber_previous, ih]
    omega

theorem dayNumber_addDays (d : CalendarDate) (days : Int) :
    (d.addDays days).dayNumber = d.dayNumber + days := by
  cases days with
  | ofNat n => exact d.dayNumber_repeat_next n
  | negSucc n =>
    have hback := d.dayNumber_repeat_previous (n + 1)
    rw [addDays, hback]
    omega

/-- One day forth or back is the day after or before. -/
theorem addDays_of_bounds (d : CalendarDate) {days : Int} (hback : -1 ≤ days) (hforth : days ≤ 1) :
    d.addDays days = d ∨ d.Precedes (d.addDays days) ∨ (d.addDays days).Precedes d := by
  obtain rfl | rfl | rfl : days = 0 ∨ days = 1 ∨ days = -1 := by omega
  · exact Or.inl rfl
  · exact Or.inr (Or.inl d.precedes_next)
  · exact Or.inr (Or.inr d.previous_precedes)

theorem daysThrough_lt_of_month_lt (hyear : a.year = b.year) (h : a.month < b.month) :
    daysThrough a.year (a.month - 1) + a.day ≤ daysThrough b.year (b.month - 1) := by
  have hday := a.day_bounds
  have hmonths := a.daysThrough_month
  have hlater : daysThrough a.year a.month ≤ daysThrough a.year (b.month - 1) :=
    daysThrough_mono a.year (by omega)
  rw [hyear] at *
  omega

/-- A date lies in its own year. -/
theorem dayNumber_bounds (d : CalendarDate) :
    daysBefore d.year < d.dayNumber ∧ d.dayNumber ≤ daysBefore (d.year + 1) := by
  have hday := d.day_bounds
  have hmonth := d.daysThrough_month
  have hyear : daysThrough d.year d.month ≤ daysThrough d.year 12 :=
    daysThrough_mono d.year d.month_bounds.2
  rw [daysBefore_succ, dayNumber]
  omega

theorem daysBefore_mono {y z : Int} (h : y ≤ z) : daysBefore y ≤ daysBefore z := by
  unfold daysBefore
  omega

theorem dayNumber_lt_of_year_lt (h : a.year < b.year) : a.dayNumber < b.dayNumber := by
  have hyears : daysBefore (a.year + 1) ≤ daysBefore b.year := daysBefore_mono h
  have ha := a.dayNumber_bounds.2
  have hb := b.dayNumber_bounds.1
  omega

theorem dayNumber_lt_of_month_lt (hyear : a.year = b.year) (h : a.month < b.month) :
    a.dayNumber < b.dayNumber := by
  have hmonths := daysThrough_lt_of_month_lt hyear h
  have hday := b.day_bounds
  rw [dayNumber, dayNumber, hyear] at *
  omega

theorem dayNumber_injective (h : a.dayNumber = b.dayNumber) : a = b := by
  have hyear : a.year = b.year := by
    rcases Int.lt_trichotomy a.year b.year with hlt | heq | hlt
    · have hdays := dayNumber_lt_of_year_lt hlt
      omega
    · exact heq
    · have hdays := dayNumber_lt_of_year_lt hlt
      omega
  have hmonth : a.month = b.month := by
    rcases Nat.lt_trichotomy a.month b.month with hlt | heq | hlt
    · have hdays := dayNumber_lt_of_month_lt hyear hlt
      omega
    · exact heq
    · have hdays := dayNumber_lt_of_month_lt hyear.symm hlt
      omega
  refine eq_of_fields hyear hmonth ?_
  rw [dayNumber, dayNumber, hyear, hmonth] at h
  omega

end ParcelPricing.CalendarDate
