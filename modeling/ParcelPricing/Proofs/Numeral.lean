import Mathlib.Algebra.Group.Nat.Defs
import ParcelPricing.Text.Blank
import ParcelPricing.Text.Numeral

namespace ParcelPricing.Text

theorem toNat_of_isDigit {c : Char} (h : c.isDigit = true) : 48 ≤ c.toNat ∧ c.toNat ≤ 57 := by
  simp only [Char.isDigit, Bool.and_eq_true, decide_eq_true_eq, UInt32.le_iff_toNat_le] at h
  exact h

theorem isBlank_of_isDigit {c : Char} (h : c.isDigit = true) : isBlank c = false := by
  have hbounds := toNat_of_isDigit h
  simp only [isBlank, blankRanges, List.any_cons, List.any_nil, Bool.or_false, Bool.or_eq_false_iff,
    Bool.and_eq_false_iff, decide_eq_false_iff_not]
  omega

theorem isDigit_of_mem_decimal {n : Nat} {c : Char} (h : c ∈ decimal n) : c.isDigit = true :=
  Nat.isDigit_of_mem_toDigits (by decide) (by decide) h

theorem isDigit_of_mem_padded {width n : Nat} {c : Char} (h : c ∈ padded width n) :
    c.isDigit = true := by
  rcases List.mem_append.1 h with h | h
  · obtain ⟨-, rfl⟩ := List.mem_replicate.1 h
    decide
  · exact isDigit_of_mem_decimal h

theorem padded_ne_nil (width n : Nat) : padded width n ≠ [] :=
  List.append_ne_nil_of_right_ne_nil _ Nat.toDigits_ne_nil

theorem length_padded {width n : Nat} (hwidth : 0 < width) (h : n < 10 ^ width) :
    (padded width n).length = width := by
  have hle : (decimal n).length ≤ width := (Nat.length_toDigits_le_iff (by decide) hwidth).2 h
  rw [padded, List.length_append, List.length_replicate]
  omega

theorem value_padded (width n : Nat) : value (padded width n) = n := by
  rw [value, padded, Nat.ofDigitChars_append, Nat.ofDigitChars_replicate_zero, Nat.mul_zero]
  exact Nat.ofDigitChars_ten_toDigits

theorem eq_of_padded_eq {width other m n : Nat} (h : padded width m = padded other n) : m = n := by
  rw [← value_padded width m, h, value_padded]

theorem padded_ne_cons {width n : Nat} {c : Char} {text : List Char} (hc : c.isDigit = false) :
    padded width n ≠ c :: text := by
  intro h
  have hdigit : c.isDigit = true := isDigit_of_mem_padded (h ▸ List.mem_cons_self)
  cases hc.symm.trans hdigit

/-- Room for one more digit is filled with a zero, if the number leaves any. -/
theorem padded_succ {width : Nat} (hwidth : 0 < width) (n : Nat) : padded (width + 1) n =
    if n < 10 ^ width then '0' :: padded width n else padded width n := by
  have hlength : (decimal n).length ≤ width ↔ n < 10 ^ width :=
    Nat.length_toDigits_le_iff (by decide) hwidth
  unfold padded
  split
  · rename_i hfits
    rw [Nat.succ_sub (hlength.2 hfits), List.replicate_succ, List.cons_append]
  · rename_i hfull
    have hlong : width < (decimal n).length := Nat.not_le.1 fun hfits => hfull (hlength.1 hfits)
    rw [Nat.sub_eq_zero_of_le hlong, Nat.sub_eq_zero_of_le (Nat.le_of_lt hlong)]

theorem ofDigitChars_lt {digits : List Char} (h : ∀ c ∈ digits, c.isDigit = true) (init : Nat) :
    Nat.ofDigitChars 10 digits init < (init + 1) * 10 ^ digits.length := by
  induction digits generalizing init with
  | nil => simp
  | cons c digits ih =>
    have hc : c.toNat - '0'.toNat < 10 := by
      have hbounds := toNat_of_isDigit (h c List.mem_cons_self)
      change c.toNat - 48 < 10
      omega
    rw [Nat.ofDigitChars_cons, List.length_cons]
    calc _ < (10 * init + (c.toNat - '0'.toNat) + 1) * 10 ^ digits.length :=
          ih (fun d hd => h d (List.mem_cons_of_mem _ hd)) _
      _ ≤ ((init + 1) * 10) * 10 ^ digits.length := Nat.mul_le_mul_right _ (by omega)
      _ = (init + 1) * 10 ^ (digits.length + 1) := by rw [Nat.pow_succ', Nat.mul_assoc]

theorem value_lt {digits : List Char} (h : ∀ c ∈ digits, c.isDigit = true) :
    value digits < 10 ^ digits.length := by
  have hlt := ofDigitChars_lt h 0
  rwa [Nat.zero_add, Nat.one_mul] at hlt

theorem takeWhile_append_of_head {p : Char → Bool} {front rest : List Char}
    (hfront : ∀ c ∈ front, p c = true) (hrest : ∀ c ∈ rest.head?, p c = false) :
    (front ++ rest).takeWhile p = front := by
  rw [List.takeWhile_append_of_pos hfront]
  cases rest with
  | nil => simp
  | cons c rest => simp [hrest c rfl]

/-- Digits are read to their end if there are no more than may be read and no digit follows, or if
there are as many as may be read. -/
theorem readDigits_append {most : Nat} {digits rest : List Char}
    (hdigits : ∀ c ∈ digits, c.isDigit = true) (hne : digits ≠ []) (hmost : digits.length ≤ most)
    (hstop : digits.length = most ∨ ∀ c ∈ rest.head?, c.isDigit = false) :
    readDigits most (digits ++ rest) = some (value digits, rest) := by
  have hleading : leadingDigits ((digits ++ rest).take most) = digits := by
    rw [List.take_append, List.take_of_length_le hmost]
    refine takeWhile_append_of_head hdigits fun c hc => ?_
    rw [List.head?_take] at hc
    split at hc
    · cases hc
    · rename_i hroom
      exact hstop.elim (fun hlength => absurd (by omega) hroom) fun hhead => hhead c hc
  simp only [readDigits, hleading, if_neg hne, List.drop_left]

/-- So many digits and nothing else. -/
structure AreDigits (count : Nat) (digits : List Char) : Prop where
  length : digits.length = count
  isDigit : ∀ c ∈ digits, c.isDigit = true

namespace AreDigits
variable {count : Nat} {digits : List Char}

theorem ne_nil (h : AreDigits count digits) (hcount : 0 < count) : digits ≠ [] :=
  List.ne_nil_of_length_pos (h.length.symm ▸ hcount)

theorem value_lt (h : AreDigits count digits) : value digits < 10 ^ count :=
  h.length ▸ Text.value_lt h.isDigit

/-- As many digits as may be read are read, whatever follows them. -/
theorem readDigits_append (h : AreDigits count digits) (hcount : 0 < count) (rest : List Char) :
    readDigits count (digits ++ rest) = some (value digits, rest) :=
  Text.readDigits_append h.isDigit (h.ne_nil hcount) (Nat.le_of_eq h.length) (Or.inl h.length)

theorem readExactly_append (h : AreDigits count digits) (hcount : 0 < count) (rest : List Char) :
    readExactly count (digits ++ rest) = some (value digits, rest) := by
  have hfront : (digits ++ rest).take count = digits := List.take_left' h.length
  have hleading : leadingDigits (digits ++ []) = digits ++ [] :=
    List.takeWhile_append_of_pos h.isDigit
  rw [List.append_nil] at hleading
  rw [readExactly, hfront, hleading, if_pos h.length, h.readDigits_append hcount]

theorem tail {c : Char} (h : AreDigits (count + 1) (c :: digits)) : AreDigits count digits :=
  ⟨Nat.succ.inj h.length, fun d hd => h.isDigit d (List.mem_cons_of_mem _ hd)⟩

/-- The first digit and the value of the others, as quotient and rest. -/
theorem value_cons {c : Char} (h : AreDigits (count + 1) (c :: digits)) :
    value (c :: digits) / 10 ^ count = c.toNat - 48 ∧
      value (c :: digits) % 10 ^ count = value digits := by
  have hlt := h.tail.value_lt
  have hvalue : value (c :: digits) = 10 ^ count * (c.toNat - 48) + value digits := by
    rw [value, Nat.ofDigitChars_cons, Nat.ofDigitChars_eq_ofDigitChars_zero, h.tail.length,
      Nat.mul_zero, Nat.zero_add]
    rfl
  rw [hvalue, Nat.mul_add_div (Nat.pow_pos (by decide)), Nat.mul_add_mod, Nat.div_eq_of_lt hlt,
    Nat.mod_eq_of_lt hlt]
  exact ⟨rfl, rfl⟩

/-- Digits of one length are told apart by their value. -/
theorem eq_of_value_eq {others : List Char} (h : AreDigits count digits)
    (h' : AreDigits count others) (hvalue : value digits = value others) : digits = others := by
  induction count generalizing digits others with
  | zero => rw [List.length_eq_zero_iff.1 h.length, List.length_eq_zero_iff.1 h'.length]
  | succ count ih =>
    obtain ⟨c, digits, rfl⟩ := List.exists_cons_of_ne_nil (h.ne_nil (Nat.succ_pos _))
    obtain ⟨d, others, rfl⟩ := List.exists_cons_of_ne_nil (h'.ne_nil (Nat.succ_pos _))
    obtain ⟨hfirst, hrest⟩ := h.value_cons
    obtain ⟨hfirst', hrest'⟩ := h'.value_cons
    rw [hvalue] at hfirst hrest
    have hc := toNat_of_isDigit (h.isDigit c List.mem_cons_self)
    have hd := toNat_of_isDigit (h'.isDigit d List.mem_cons_self)
    have hsame : c = d := Char.toNat_inj.1 (by omega)
    rw [hsame, ih h.tail h'.tail (hrest.symm.trans hrest')]

end AreDigits

theorem areDigits_padded {width n : Nat} (hwidth : 0 < width) (h : n < 10 ^ width) :
    AreDigits width (padded width n) :=
  ⟨length_padded hwidth h, fun _ => isDigit_of_mem_padded⟩

theorem readDigits_padded {width n : Nat} (hwidth : 0 < width) (h : n < 10 ^ width)
    (rest : List Char) : readDigits width (padded width n ++ rest) = some (n, rest) := by
  rw [(areDigits_padded hwidth h).readDigits_append hwidth, value_padded]

theorem AreDigits.eq_padded {count : Nat} {digits : List Char} (h : AreDigits count digits)
    (hcount : 0 < count) : digits = padded count (value digits) :=
  h.eq_of_value_eq (areDigits_padded hcount h.value_lt) (value_padded _ _).symm

/-- What is read is what the text begins with, and nothing else is taken. -/
theorem readDigits_eq_some {most n : Nat} {text rest : List Char}
    (h : readDigits most text = some (n, rest)) :
    ∃ digits, digits = leadingDigits (text.take most) ∧ digits ≠ [] ∧ text = digits ++ rest ∧
      (∀ c ∈ digits, c.isDigit = true) ∧ n = value digits := by
  unfold readDigits at h
  extract_lets digits at h
  split at h
  · cases h
  · rename_i hne
    simp only [Option.some.injEq, Prod.mk.injEq] at h
    obtain ⟨rfl, rfl⟩ := h
    have hfront : digits <+: text := (List.takeWhile_prefix _).trans (List.take_prefix most text)
    exact ⟨digits, rfl, hne, (List.prefix_iff_eq_append.1 hfront).symm,
      List.all_eq_true.1 List.all_takeWhile, rfl⟩

/-- What is read exactly is as many digits as were asked for, and nothing else is taken. -/
theorem readExactly_eq_some {count n : Nat} {text rest : List Char}
    (h : readExactly count text = some (n, rest)) :
    ∃ digits, text = digits ++ rest ∧ AreDigits count digits ∧ n = value digits := by
  rw [readExactly] at h
  split at h
  · rename_i hcount
    obtain ⟨digits, rfl, -, htext, hdigits, hvalue⟩ := readDigits_eq_some h
    exact ⟨_, htext, ⟨hcount, hdigits⟩, hvalue⟩
  · cases h

theorem readExactly_eq_some_iff {width n : Nat} {text rest : List Char} (hwidth : 0 < width) :
    readExactly width text = some (n, rest) ↔ n < 10 ^ width ∧ text = padded width n ++ rest := by
  constructor
  · intro h
    obtain ⟨digits, rfl, hdigits, rfl⟩ := readExactly_eq_some h
    exact ⟨hdigits.value_lt, by rw [← hdigits.eq_padded hwidth]⟩
  · rintro ⟨hfits, rfl⟩
    rw [(areDigits_padded hwidth hfits).readExactly_append hwidth, value_padded]

theorem expect_eq_some {c : Char} {text rest : List Char} (h : expect c text = some rest) :
    text = c :: rest := by
  cases text with
  | nil => cases h
  | cons d text =>
    rw [expect] at h
    split at h
    · rename_i hd
      obtain rfl := Option.some.inj h
      rw [hd]
    · cases h

theorem expect_eq_some_iff {c : Char} {text rest : List Char} :
    expect c text = some rest ↔ text = c :: rest := by
  refine ⟨expect_eq_some, ?_⟩
  rintro rfl
  exact if_pos rfl

end ParcelPricing.Text
