import ParcelPricing.Proofs.DecimalReading
import ParcelPricing.Proofs.JsonGrammar
import ParcelPricing.Report.Document

namespace ParcelPricing

namespace Json
open Text

theorem isDigits_decimal (n : Nat) : IsDigits (decimal n) :=
  ⟨Nat.toDigits_ne_nil, fun _ => isDigit_of_mem_decimal⟩

/-- A number above zero begins with no zero. -/
theorem head?_decimal {n : Nat} (h : 0 < n) : (decimal n).head? ≠ some '0' := by
  induction n using Nat.strongRecOn with
  | ind n ih =>
    rw [decimal, Nat.toDigits_eq_if (by decide)]
    split
    · rename_i hsmall
      have hdigits : ∀ k < 10, 0 < k → Nat.digitChar k ≠ '0' := by decide
      simpa using hdigits n hsmall h
    · have hrest := ih (n / 10) (by omega) (by omega)
      have hne : Nat.toDigits 10 (n / 10) ≠ [] := Nat.toDigits_ne_nil
      rwa [List.head?_append_of_ne_nil _ hne]

theorem isNumber_decimal (n : Nat) : IsNumber (decimal n) := by
  have hminus : [] ∈ [[], ['-']] := by decide
  rcases Nat.eq_zero_or_pos n with rfl | hpos
  · exact .parts hminus .zero .none .none
  · have hwhole := IsWhole.digits (isDigits_decimal n) (head?_decimal hpos)
    simpa using IsNumber.parts hminus hwhole .none .none

end Json

namespace Decimal.NumberFormat
open Json (IsDigits IsWhole IsFraction IsExponent IsNumber)
variable {f : NumberFormat} {minus digits : List Char}

theorem isExponent_exponentText (e : Int) : IsExponent (exponentText e) := by
  have hminus : ['-'] ∈ [[], ['+'], ['-']] := by decide
  have hplus : ['+'] ∈ [[], ['+'], ['-']] := by decide
  unfold exponentText
  split
  · exact .digits (by decide) hminus (Json.isDigits_decimal _)
  · exact .digits (by decide) hplus (Json.isDigits_decimal _)

/-- Without an exponent: zeros are filled in behind the digits or before them, or the point goes
between them. -/
theorem isNumber_plain (hminus : minus ∈ [[], ['-']]) (hdigits : IsDigits digits)
    (hhead : digits.head? ≠ some '0') (htail : IsFraction f.wholeTail) (exponent : Int) :
    IsNumber (minus ++ f.plain digits exponent) := by
  obtain ⟨hne, hall⟩ := hdigits
  unfold plain
  extract_lets point
  split
  · have hwhole : IsDigits (digits ++ zeros exponent.toNat) :=
      ⟨List.append_ne_nil_of_left_ne_nil hne _, List.forall_mem_append.2
        ⟨hall, fun _ => isDigit_of_mem_zeros⟩⟩
    have hwholeHead : (digits ++ zeros exponent.toNat).head? ≠ some '0' := by
      rwa [List.head?_append_of_ne_nil _ hne]
    simpa using IsNumber.parts hminus (.digits hwhole hwholeHead) htail .none
  · split
    · have htake : IsDigits (digits.take point.toNat) := by
        refine ⟨?_, fun c hc => hall c (List.mem_of_mem_take hc)⟩
        simp [List.take_eq_nil_iff, hne]
        omega
      have htakeHead : (digits.take point.toNat).head? ≠ some '0' := by
        rwa [List.head?_take, if_neg (by omega)]
      have hdrop : IsDigits (digits.drop point.toNat) := by
        refine ⟨?_, fun c hc => hall c (List.mem_of_mem_drop hc)⟩
        rw [Ne, List.drop_eq_nil_iff]
        omega
      simpa using IsNumber.parts hminus (.digits htake htakeHead) (.digits hdrop) .none
    · have hfraction : IsDigits (zeros (-point).toNat ++ digits) :=
        ⟨List.append_ne_nil_of_right_ne_nil _ hne, List.forall_mem_append.2
          ⟨fun _ => isDigit_of_mem_zeros, hall⟩⟩
      simpa using IsNumber.parts hminus .zero (.digits hfraction) .none

theorem isNumber_scientific (hminus : minus ∈ [[], ['-']]) (hdigits : IsDigits digits)
    (hhead : digits.head? ≠ some '0') (exponent : Int) :
    IsNumber (minus ++ scientific digits exponent) := by
  obtain ⟨hne, hall⟩ := hdigits
  unfold scientific
  extract_lets leading
  have hleading : IsExponent leading := isExponent_exponentText _
  split
  · exact absurd rfl hne
  · rename_i digit
    simpa using IsNumber.parts hminus (.digits ⟨hne, hall⟩ hhead) .none hleading
  · rename_i digit rest hrest
    obtain ⟨hdigit, hrestAll⟩ := List.forall_mem_cons.1 hall
    have hwhole : IsDigits [digit] := ⟨List.cons_ne_nil _ _, List.forall_mem_singleton.2 hdigit⟩
    have hfraction : IsDigits rest := ⟨fun h => hrest (h ▸ rfl), hrestAll⟩
    simpa using IsNumber.parts hminus (.digits hwhole hhead) (.digits hfraction) hleading

theorem sign_mem (s : Float.Model.UnpackedFloat.Sign) : sign s ∈ [[], ['-']] := by
  cases s <;> decide

/-- What is finite is written as a number. -/
theorem isNumber_chars (htail : IsFraction f.wholeTail) {x : Float} (h : x.isFinite = true) :
    IsNumber (f.chars x) := by
  change (Double.view x).isFinite = true at h
  unfold chars
  split
  · rename_i hview
    rw [hview] at h
    cases h
  · rename_i s hview
    rw [hview] at h
    cases h
  · rename_i s hview
    simpa using IsNumber.parts (sign_mem s) .zero htail .none
  · rename_i s m e hm hview
    have hpos := shortest_pos e f.tieUp hm
    have hdigits := Json.isDigits_decimal (shortest m e f.tieUp).digits
    have hhead := Json.head?_decimal hpos
    unfold numeral
    extract_lets digits
    split
    · exact isNumber_plain (sign_mem s) hdigits hhead htail _
    · exact isNumber_scientific (sign_mem s) hdigits hhead _

end Decimal.NumberFormat

end ParcelPricing
