import ParcelPricing.Decimal.Layout
import ParcelPricing.Proofs.Numeral
import ParcelPricing.Proofs.ShortestDecimal

/-! Doubles are read back from what is written for them. -/
namespace ParcelPricing.Decimal
open Text NumberFormat
variable {f : NumberFormat} {whole fraction digits : List Char}

theorem isDigit_of_mem_zeros {n : Nat} {c : Char} (h : c ∈ zeros n) : c.isDigit = true := by
  obtain ⟨-, rfl⟩ := List.mem_replicate.1 h
  rfl

theorem value_append_zeros (digits : List Char) (n : Nat) :
    value (digits ++ zeros n) = value digits * 10 ^ n := by
  rw [value, Nat.ofDigitChars_append, NumberFormat.zeros, Nat.ofDigitChars_replicate_zero, Nat.mul_comm]
  rfl

theorem value_zeros_append (n : Nat) (digits : List Char) :
    value (zeros n ++ digits) = value digits := by
  rw [value, Nat.ofDigitChars_append, NumberFormat.zeros, Nat.ofDigitChars_replicate_zero, Nat.mul_zero]
  rfl

theorem readExponent_exponentText (e : Int) : readExponent (exponentText e) = some e := by
  have hdigits : (decimal e.natAbs).all Char.isDigit = true :=
    List.all_eq_true.2 fun _ => isDigit_of_mem_decimal
  have hne : decimal e.natAbs ≠ [] := Nat.toDigits_ne_nil
  have hvalue : value (decimal e.natAbs) = e.natAbs := Nat.ofDigitChars_ten_toDigits
  have hmark : 'e'.toLower = 'e' := rfl
  by_cases he : e < 0
  · simp only [exponentText, if_pos he, readExponent, splitSign, hmark, hdigits, hvalue, ne_eq, hne,
      not_false_eq_true, and_self, if_true]
    congr 1
    omega
  · simp only [exponentText, if_neg he, readExponent, splitSign, hmark, hdigits, hvalue, ne_eq, hne,
      not_false_eq_true, and_self, if_true, Bool.false_eq_true, if_false]
    congr 1
    omega

/-- Digits without a point. -/
theorem readScientific?_whole (tail : List Char) (hne : whole ≠ [])
    (hwhole : ∀ c ∈ whole, c.isDigit = true)
    (htail : ∀ c ∈ tail.head?, c.isDigit = false ∧ c ≠ '.') :
    readScientific? (whole ++ tail) = (readExponent tail).map fun e => (value whole, e) := by
  have hleading : leadingDigits (whole ++ tail) = whole :=
    takeWhile_append_of_head hwhole fun c hc => (htail c hc).1
  have hpoint : ∀ rest, tail ≠ '.' :: rest := by
    rintro rest rfl
    exact (htail '.' rfl).2 rfl
  simp only [readScientific?, hleading, List.drop_left]
  cases readExponent tail <;> simp [guard, hne]

/-- Digits with a point among them or behind them. -/
theorem readScientific?_point (tail : List Char) (hne : whole ≠ [])
    (hwhole : ∀ c ∈ whole, c.isDigit = true)
    (hfraction : ∀ c ∈ fraction, c.isDigit = true) (htail : ∀ c ∈ tail.head?, c.isDigit = false) :
    readScientific? (whole ++ '.' :: (fraction ++ tail)) =
      (readExponent tail).map fun e => (value (whole ++ fraction), e - (fraction.length : Int)) := by
  have hleading : leadingDigits (whole ++ '.' :: (fraction ++ tail)) = whole :=
    takeWhile_append_of_head hwhole (by simp)
  have hbehind : leadingDigits (fraction ++ tail) = fraction :=
    takeWhile_append_of_head hfraction htail
  simp only [readScientific?, hleading, List.drop_left, hbehind]
  cases readExponent tail <;> simp [guard, hne]

/-- Without an exponent: the zeros behind the digits are read with them. -/
theorem readScientific?_plain (exponent : Int) (hne : digits ≠ [])
    (hdigits : ∀ c ∈ digits, c.isDigit = true)
    (htail : f.wholeTail ∈ [[], ['.', '0']]) :
    ∃ d e, readScientific? (f.plain digits exponent) = some (d, e) ∧
      (d * 10 ^ e : ℚ) = value digits * 10 ^ exponent := by
  have hpos : 0 < digits.length := List.length_pos_iff.2 hne
  unfold plain
  extract_lets point
  split
  · rename_i hwhole
    lift exponent to Nat using hwhole
    have hzeros : ∀ c ∈ digits ++ zeros exponent, c.isDigit = true :=
      List.forall_mem_append.2 ⟨hdigits, fun _ => isDigit_of_mem_zeros⟩
    have hne' : digits ++ zeros exponent ≠ [] := List.append_ne_nil_of_left_ne_nil hne _
    rw [Int.toNat_natCast]
    simp only [List.mem_cons, List.not_mem_nil, or_false] at htail
    rcases htail with htail | htail
    · have hread := readScientific?_whole [] hne' hzeros (by simp)
      rw [htail]
      refine ⟨_, _, hread, ?_⟩
      rw [value_append_zeros, zpow_zero, mul_one, zpow_natCast]
      push_cast
      rfl
    · have hread := readScientific?_point [] hne' hzeros
        (fun _ => isDigit_of_mem_zeros (n := 1)) (by simp)
      rw [htail]
      refine ⟨_, _, hread, ?_⟩
      have hlength : (zeros 1).length = 1 := rfl
      rw [value_append_zeros, value_append_zeros, hlength, zero_sub, zpow_neg, zpow_natCast,
        zpow_natCast]
      push_cast
      field_simp
  · split
    · have htake : digits.take point.toNat ≠ [] := by
        rw [Ne, List.take_eq_nil_iff]
        exact not_or.2 ⟨by omega, hne⟩
      have hread := readScientific?_point [] htake
        (fun c hc => hdigits c (List.mem_of_mem_take hc))
        (fun c hc => hdigits c (List.mem_of_mem_drop (i := point.toNat) hc)) (by simp)
      rw [List.append_nil, List.take_append_drop] at hread
      refine ⟨_, _, hread, ?_⟩
      congr 2
      rw [List.length_drop]
      omega
    · have hread := readScientific?_point [] (List.cons_ne_nil '0' []) (by simp)
        (List.forall_mem_append.2 ⟨fun _ => isDigit_of_mem_zeros (n := (-point).toNat), hdigits⟩)
        (by simp)
      have hvalue : value (['0'] ++ (zeros (-point).toNat ++ digits)) = value digits :=
        value_zeros_append ((-point).toNat + 1) digits
      rw [List.append_nil, hvalue] at hread
      refine ⟨_, _, hread, ?_⟩
      have hlength : (zeros (-point).toNat).length = (-point).toNat := List.length_replicate
      congr 2
      rw [List.length_append, hlength]
      omega

theorem readScientific?_scientific (exponent : Int) (hne : digits ≠ [])
    (hdigits : ∀ c ∈ digits, c.isDigit = true) :
    readScientific? (scientific digits exponent) = some (value digits, exponent) := by
  have hmark : ∀ e, ∀ c ∈ (exponentText e).head?, c.isDigit = false ∧ c ≠ '.' := by
    rintro e c ⟨⟩
    exact ⟨rfl, by decide⟩
  unfold scientific
  extract_lets leading
  split
  · exact absurd rfl hne
  · rename_i digit
    have hread := readScientific?_whole leading (List.cons_ne_nil digit []) hdigits (hmark _)
    rw [readExponent_exponentText] at hread
    simpa using hread
  · rename_i digit rest _
    obtain ⟨hdigit, hrest⟩ := List.forall_mem_cons.1 hdigits
    have hread := readScientific?_point leading (List.cons_ne_nil digit []) (by simpa using hdigit)
      hrest fun c hc => (hmark _ c hc).1
    have hexponent : ((digit :: rest).length + exponent - 1 : Int) - rest.length = exponent := by
      rw [List.length_cons]
      omega
    rw [readExponent_exponentText, Option.map_some, hexponent] at hread
    exact hread

theorem readScientific?_numeral (htail : f.wholeTail ∈ [[], ['.', '0']])
    (n : Numeral) : ∃ d e, readScientific? (f.numeral n) = some (d, e) ∧ (d * 10 ^ e : ℚ) = n.worth := by
  have hne : decimal n.digits ≠ [] := Nat.toDigits_ne_nil
  have hdigits : ∀ c ∈ decimal n.digits, c.isDigit = true := fun _ => isDigit_of_mem_decimal
  have hvalue : value (decimal n.digits) = n.digits := Nat.ofDigitChars_ten_toDigits
  unfold numeral
  extract_lets digits
  split
  · obtain ⟨d, e, hread, hworth⟩ := readScientific?_plain n.exponent hne hdigits htail
    refine ⟨d, e, hread, ?_⟩
    rw [hworth, hvalue, Numeral.worth]
  · have hread := readScientific?_scientific n.exponent hne hdigits
    rw [hvalue] at hread
    exact ⟨_, _, hread, rfl⟩

/-- A text that begins with a digit spells no name. -/
theorem lowered_ne {c d : Char} {text name : List Char} (hc : c.isDigit = true) (hd : 57 < d.toNat) :
    lowered (c :: text) ≠ d :: name := by
  have hbounds := toNat_of_isDigit hc
  have hlower : c.toLower = c := by
    refine dif_neg fun h => ?_
    have hge : 65 ≤ c.toNat := h.1
    omega
  intro h
  obtain ⟨rfl, -⟩ := List.cons.inj h
  rw [hlower] at hd
  omega

theorem readDouble?_sign (s : Float.Model.UnpackedFloat.Sign) {c : Char} {text : List Char}
    (hc : c.isDigit = true) : readDouble? (sign s ++ c :: text) =
      (readUnsigned? (c :: text)).map (Double.signed s) := by
  have hnan : lowered (c :: text) ≠ "nan".toList := lowered_ne hc (by decide)
  have hinf : lowered (c :: text) ∉ ["inf".toList, "infinity".toList] := by
    simp only [List.mem_cons, List.not_mem_nil, or_false, not_or]
    exact ⟨lowered_ne hc (by decide), lowered_ne hc (by decide)⟩
  cases s with
  | negative =>
    have hsplit : splitSign (sign .negative ++ c :: text) = (true, c :: text) := rfl
    simp only [readDouble?, hsplit, if_neg hnan, if_neg hinf, if_true]
    rfl
  | positive =>
    have hsplit : splitSign (sign .positive ++ c :: text) = (false, c :: text) := by
      rw [sign, List.nil_append, splitSign]
      · rintro _ ⟨⟩
        cases hc
      · rintro _ ⟨⟩
        cases hc
    simp only [readDouble?, hsplit, if_neg hnan, if_neg hinf, Bool.false_eq_true, if_false]
    rfl

theorem exists_digit_numeral (f : NumberFormat) (n : Numeral) :
    ∃ c text, f.numeral n = c :: text ∧ c.isDigit = true := by
  obtain ⟨c, rest, hdigits⟩ := List.exists_cons_of_ne_nil (l := decimal n.digits) Nat.toDigits_ne_nil
  have hc : c.isDigit = true := isDigit_of_mem_decimal (hdigits ▸ List.mem_cons_self)
  rw [numeral, hdigits]
  split
  · unfold plain
    extract_lets point
    split
    · exact ⟨c, _, rfl, hc⟩
    · split
      · obtain ⟨k, hk⟩ : ∃ k, point.toNat = k + 1 := ⟨point.toNat - 1, by omega⟩
        exact ⟨c, _, by rw [hk]; rfl, hc⟩
      · exact ⟨'0', _, rfl, rfl⟩
  · unfold scientific
    extract_lets leading
    cases rest with
    | nil => exact ⟨c, _, rfl, hc⟩
    | cons d rest => exact ⟨c, _, rfl, hc⟩

/-- What is written for a finite double is read as that double. -/
theorem readDouble?_chars (htail : f.wholeTail ∈ [[], ['.', '0']]) {x : Float}
    (h : x.isFinite = true) : readDouble? (f.chars x) = some x := by
  change (Double.view x).isFinite = true at h
  unfold chars
  split
  · rename_i hview
    rw [hview] at h
    cases h
  · rename_i s hview
    rw [hview] at h
    cases h
  · rename_i s hview
    have hzero : ∃ y, readUnsigned? ('0' :: f.wholeTail) = some y ∧ Double.view y = .zero .positive := by
      simp only [List.mem_cons, List.not_mem_nil, or_false] at htail
      rcases htail with htail | htail
      · exact ⟨nearest 0 0, by rw [htail]; rfl, rfl⟩
      · exact ⟨nearest 0 (-1), by rw [htail]; rfl, rfl⟩
    obtain ⟨y, hread, hy⟩ := hzero
    rw [readDouble?_sign s rfl, hread]
    refine congrArg some (Double.view_injective ?_)
    rw [hview]
    cases s with
    | negative => exact (Double.view_neg_eq y).trans (by rw [hy]; rfl)
    | positive => exact hy
  · rename_i s m e hm hview
    obtain ⟨hcanonical, hlast⟩ := Double.canonical_view hview
    obtain ⟨d, g, hread, hworth⟩ := readScientific?_numeral htail (shortest m e f.tieUp)
    obtain ⟨c, text, hcons, hc⟩ := exists_digit_numeral f (shortest m e f.tieUp)
    have hrounds := roundsTo_shortest e f.tieUp hm
    rw [← hworth] at hrounds
    have hnearest := Double.view_nearest hm hcanonical hlast hrounds
    rw [hcons, readDouble?_sign s hc, ← hcons, readUnsigned?, hread]
    refine congrArg some (Double.view_injective ?_)
    rw [hview]
    cases s with
    | negative => exact (Double.view_neg_eq _).trans (by rw [hnearest]; rfl)
    | positive => exact hnearest

end ParcelPricing.Decimal
