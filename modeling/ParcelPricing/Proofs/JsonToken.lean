import ParcelPricing.Proofs.JsonGrammar
import ParcelPricing.Proofs.Numeral

namespace ParcelPricing.Json
open Text
variable {text rest value : List Char} {c : Char}

/-- What follows a number must not go on with it. -/
def Ends (rest : List Char) : Prop :=
  ∀ c ∈ rest.head?, c.isDigit = false ∧ c ≠ '.' ∧ c ≠ 'e' ∧ c ≠ 'E'

theorem leadingDigits_append {digits : List Char} (hdigits : IsDigits digits)
    (hrest : ∀ c ∈ rest.head?, c.isDigit = false) : leadingDigits (digits ++ rest) = digits :=
  takeWhile_append_of_head hdigits.2 hrest

theorem isDigit_of_mem_head? {digits : List Char} (hdigits : IsDigits digits) (rest : List Char) :
    ∀ c ∈ (digits ++ rest).head?, c.isDigit = true := by
  obtain ⟨c, digits, rfl⟩ := List.exists_cons_of_ne_nil hdigits.1
  rintro d ⟨⟩
  exact hdigits.2 _ List.mem_cons_self

theorem numberPart_of_not_mark {isMark : Char → Bool} {signed : Bool}
    (h : ∀ c ∈ text.head?, isMark c = false) : numberPart isMark signed text = some ([], text) := by
  cases text with
  | nil => rfl
  | cons c text => simp [numberPart, h c rfl]

theorem numberPart_fraction {fraction : List Char} (h : IsFraction fraction)
    (hrest : ∀ c ∈ rest.head?, c.isDigit = false ∧ c ≠ '.') :
    numberPart (· = '.') false (fraction ++ rest) = some (fraction, rest) := by
  cases h with
  | none => exact numberPart_of_not_mark fun c hc => decide_eq_false (hrest c hc).2
  | @digits digits hdigits =>
    have hleading := leadingDigits_append hdigits fun c hc => (hrest c hc).1
    simp [numberPart, hleading, hdigits.1]

theorem numberPart_exponent {exponent : List Char} (h : IsExponent exponent) (hrest : Ends rest) :
    numberPart (fun c => c = 'e' || c = 'E') true (exponent ++ rest) = some (exponent, rest) := by
  cases h with
  | none =>
    refine numberPart_of_not_mark fun c hc => ?_
    obtain ⟨-, -, hsmall, hlarge⟩ := hrest c hc
    simp [hsmall, hlarge]
  | @digits mark sign digits hmark hsign hdigits =>
    have hleading := leadingDigits_append hdigits fun c hc => (hrest c hc).1
    have hmarks : (decide (mark = 'e') || decide (mark = 'E')) = true := by simpa using hmark
    obtain ⟨hlength, hsigns⟩ : sign.length ≤ 1 ∧
        ∀ c ∈ sign, (decide (c = '+') || decide (c = '-')) = true := by
      simp only [List.mem_cons, List.not_mem_nil, or_false] at hsign
      rcases hsign with rfl | rfl | rfl <;> simp
    have htake := takeWhile_append_of_head hsigns fun c hc => by
      have hdigit := isDigit_of_mem_head? hdigits rest c hc
      have hplus : c ≠ '+' := fun h => absurd (h ▸ hdigit) (by decide)
      have hminus : c ≠ '-' := fun h => absurd (h ▸ hdigit) (by decide)
      simp [hplus, hminus]
    simp only [numberPart, List.cons_append, List.append_assoc, if_pos hmarks, if_true, htake,
      List.drop_left, hleading]
    rw [if_pos ⟨hlength, hdigits.1⟩, ← List.drop_drop, List.drop_left, List.drop_left]

theorem head?_exponent {exponent : List Char} (h : IsExponent exponent) (hrest : Ends rest) :
    ∀ c ∈ (exponent ++ rest).head?, c.isDigit = false ∧ c ≠ '.' := by
  cases h with
  | none => exact fun c hc => ⟨(hrest c hc).1, (hrest c hc).2.1⟩
  | @digits mark _ _ hmark _ _ =>
    rintro _ ⟨⟩
    simp only [List.mem_cons, List.not_mem_nil, or_false] at hmark
    rcases hmark with rfl | rfl <;> decide

theorem head?_fraction {fraction : List Char} (h : IsFraction fraction)
    (hrest : ∀ c ∈ rest.head?, c.isDigit = false ∧ c ≠ '.') :
    ∀ c ∈ (fraction ++ rest).head?, c.isDigit = false := by
  cases h with
  | none => exact fun c hc => (hrest c hc).1
  | digits _ =>
    rintro c ⟨⟩
    decide

theorem IsWhole.isDigits {whole : List Char} (h : IsWhole whole) :
    IsDigits whole ∧ (whole.head? = some '0' → whole.length = 1) := by
  cases h with
  | zero => exact ⟨⟨List.cons_ne_nil _ _, List.forall_mem_singleton.2 rfl⟩, fun _ => rfl⟩
  | digits hdigits hhead => exact ⟨hdigits, fun hzero => absurd hzero hhead⟩

theorem readNumber_append (h : IsNumber text) (hrest : Ends rest) :
    readNumber (text ++ rest) = some (text, rest) := by
  cases h with
  | @parts minus whole fraction exponent hminus hwhole hfraction hexponent =>
    obtain ⟨hdigits, hzero⟩ := hwhole.isDigits
    have hafter := head?_exponent hexponent hrest
    obtain ⟨hlength, hmarks⟩ : minus.length ≤ 1 ∧ ∀ c ∈ minus, decide (c = '-') = true := by
      simp only [List.mem_cons, List.not_mem_nil, or_false] at hminus
      rcases hminus with rfl | rfl <;> simp
    have htake := takeWhile_append_of_head hmarks fun c hc => by
      have hdigit := isDigit_of_mem_head? hdigits (fraction ++ (exponent ++ rest)) c hc
      exact decide_eq_false fun h => absurd (h ▸ hdigit) (by decide)
    have hleading := leadingDigits_append hdigits (head?_fraction hfraction hafter)
    have hguard : minus.length ≤ 1 ∧ whole ≠ [] ∧
        (whole.head? = some '0' → whole.length = 1) := ⟨hlength, hdigits.1, hzero⟩
    unfold readNumber
    extract_lets minus' whole'
    have hminus' : minus' = minus := by simpa only [minus', List.append_assoc] using htake
    have hwhole' : whole' = whole := by
      simpa only [whole', hminus', List.append_assoc, List.drop_left] using hleading
    rw [hminus', hwhole', guard, if_pos hguard]
    simp only [List.append_assoc, ← List.drop_drop, List.drop_left, Option.bind_eq_bind,
      Option.pure_def, Option.bind_some, numberPart_fraction hfraction hafter]
    simp [numberPart_exponent hexponent hrest]

/-- A leading surrogate is no character by itself. -/
theorem charOf?_eq_none_of_pairChar? {lead trail : Nat} (h : pairChar? lead trail = some c) :
    charOf? lead = none := by
  unfold pairChar? at h
  split at h
  · rename_i hrange
    simp only [Bool.and_eq_true, decide_eq_true_eq] at hrange
    have hinvalid : ¬ lead.isValidChar := by
      simp only [Nat.isValidChar]
      omega
    exact dif_neg hinvalid
  · cases h

/-- The number of an escape counts by itself, whatever follows it. -/
theorem readString_unit {a b d e : Char} {n : Nat} (hunit : hexUnit? a b d e = some n)
    (hchar : charOf? n = some c) (h : readString text = some (value, rest)) :
    readString ('\\' :: 'u' :: a :: b :: d :: e :: text) = some (c :: value, rest) := by
  rw [readString.eq_def]
  split <;> rename_i heq
  · cases heq
  · cases heq
  · cases heq
    simp [hunit, hchar, h]
  · cases heq
    simp [hunit, hchar, h]
  · rename_i hshort
    cases heq
    exact absurd rfl (hshort a b d e text rfl)
  · rename_i hshort
    cases heq
    exact absurd rfl (hshort 'u' _ rfl)

theorem readString_append (h : SpellsString value text) :
    readString (text ++ '"' :: rest) = some (value, rest) := by
  induction h with
  | nil => rfl
  | plain hquote hslash hcontrol _ ih =>
    rw [List.cons_append, readString.eq_def]
    split
    all_goals simp_all
  | @letter c x _ _ hletter _ ih =>
    have hx : x ≠ 'u' := by
      rintro rfl
      cases hletter
    simp [readString, hletter, ih, hx]
  | unit hunit hchar _ ih => exact readString_unit hunit hchar ih
  | pair hlead htrail hchar _ ih =>
    have hnone := charOf?_eq_none_of_pairChar? hchar
    simp [readString, hlead, htrail, hnone, hchar, ih]

end ParcelPricing.Json
