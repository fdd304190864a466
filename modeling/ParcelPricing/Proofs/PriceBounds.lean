import ParcelPricing.Proofs.Ceiling
import ParcelPricing.Proofs.LeastPrice
import ParcelPricing.Proofs.TariffTerms

/-! How far prices and discounts can go, with amounts as exact rationals. -/
namespace ParcelPricing
open Rule Tariff

namespace Rule

/-- A grant goes beyond its proposal by the tolerance at most, since a proposal that is not granted
whole is no smaller than what the ceiling leaves. -/
theorem grant_bounds {ceiling granted : ℚ} {proposed : Option ℚ} (hp : 0 ≤ proposed.getD 0) :
    0 ≤ (grant ceiling granted proposed).getD 0 ∧
      (grant ceiling granted proposed).getD 0 ≤ proposed.getD 0 + 1e-9 := by
  constructor
  · refine grant_nonneg fun q hq => ?_
    rwa [Option.mem_def.1 hq] at hp
  · by_cases h : proposed.getD 0 + granted < ceiling
    · rw [grant_of_fits h]
      linarith
    · rw [grant_of_not_fits h, Option.getD_some]
      have hleft := add_remainder_le ceiling granted
      rcases max_choice granted (ceiling + 1e-9) with hmax | hmax
      · rw [hmax] at hleft
        linarith
      · rw [hmax] at hleft
        linarith

end Rule

/-- What a shipment is entitled to, of its base price. -/
structure Entitled (t : Terms ℚ) (s : Shipment ℚ) (base proposal : ℚ) : Prop where
  nonneg : 0 ≤ proposal
  le_base : proposal ≤ base
  least : s.size = .small → ∃ least,
    IsLeast {price | ∃ provider, t.prices.price? provider .small = some price} least ∧
      least ≤ base - proposal

variable {t : Tariff ℚ} {terms : Terms ℚ} {l : Ledger ℚ} {s : Shipment ℚ} {base : ℚ}

/-- A base price is no less than the cheapest provider of the size asks. -/
theorem exists_leastPrice?_le (hbase : terms.base? s = some base) :
    ∃ least, terms.prices.leastPrice? s.size = some least ∧
      IsLeast {price | ∃ provider, terms.prices.price? provider s.size = some price} least ∧
      least ≤ base := by
  have hprice := Terms.price?_of_base? hbase
  obtain ⟨least, hleast⟩ := PriceTable.exists_leastPrice? hprice
  have hisLeast := PriceTable.isLeast_leastPrice? hleast
  exact ⟨least, hleast, hisLeast, hisLeast.2 ⟨s.provider, hprice⟩⟩

theorem entitled_none (hbase : terms.base? s = some base) (hnonneg : 0 ≤ base) :
    Entitled terms s base 0 where
  nonneg := le_refl 0
  le_base := hnonneg
  least hsmall := by
    obtain ⟨least, -, hisLeast, hle⟩ := exists_leastPrice?_le hbase
    rw [hsmall] at hisLeast
    exact ⟨least, hisLeast, by rwa [sub_zero]⟩

theorem entitled_assessed (h : t.Usable) (hs : s.proposed = none)
    (hbase : t.terms.base? s = some base) :
    Entitled t.terms s base ((assessed t.terms l s).proposed.getD 0) := by
  have hprice := Terms.price?_of_base? hbase
  have hnonneg : 0 ≤ base := price_nonneg h hprice
  have hnone := entitled_none hbase hnonneg
  rw [proposed_assessed]
  split
  · -- The free shipment of the month is large, so it is not held to the least small price.
    rename_i hfree
    rw [hprice, Option.getD_some]
    refine ⟨hnonneg, le_refl base, fun hsmall => ?_⟩
    rw [hfree.1.2] at hsmall
    cases hsmall
  · by_cases hsmall : s.size = .small
    · obtain ⟨least, hleast, hisLeast, hle⟩ := exists_leastPrice?_le hbase
      have hleast_nonneg : 0 ≤ least := by
        obtain ⟨provider, hleast_price⟩ := hisLeast.1
        exact price_nonneg h hleast_price
      rw [Terms.smallProposal, if_pos hsmall, hprice, hleast]
      simp only
      split
      · rw [Option.getD_some]
        refine ⟨by linarith, by linarith, fun _ => ⟨least, ?_, by linarith⟩⟩
        rwa [hsmall] at hisLeast
      · exact hnone
    · rw [Terms.smallProposal, if_neg hsmall, hs]
      exact hnone

/-- A shipment of the input comes without a proposal and without a price. -/
theorem unpriced_of_mem_readAll {α : Type} {s : Shipment α} {text : List Char}
    (h : s ∈ Shipment.readAll text) : s.proposed = none ∧ s.price = none := by
  obtain ⟨tokens, -, rfl⟩ := List.mem_map.1 h
  exact ⟨rfl, rfl⟩

/-- A discount lies between nothing and the proposal, and a price between nothing and the list
price, but for the tolerance; a small shipment costs no less than the cheapest provider asks. -/
theorem price_bounds (first : Nat) {t : Tariff ℚ} {terms : Terms ℚ} (h : t.accept = .ok terms)
    (l : Ledger ℚ) (text : List Char) :
    let e : Engine ℚ := ⟨standard first, terms, l⟩
    ∀ out ∈ (e.run (Shipment.readAll text)).1, (terms.base? out = none → out.price = none) ∧
      ∀ base, terms.base? out = some base →
        let proposal := out.proposed.getD 0
        let discount := out.discount.getD 0
        0 ≤ proposal ∧ 0 ≤ discount ∧ discount ≤ proposal + 1e-9 ∧
          out.price = some (base - discount) ∧ -1e-9 ≤ base - discount ∧ base - discount ≤ base ∧
          (out.size = .small → ∃ least,
            IsLeast {price | ∃ provider, terms.prices.price? provider .small = some price} least ∧
              least - 1e-9 ≤ base - discount) := by
  intro e out hout
  obtain ⟨husable, rfl⟩ := accept_eq_ok_iff.1 h
  obtain ⟨s, hs, m, rfl⟩ := (keepTerms_standard first).mem_run hout
  obtain ⟨hproposed, hnew⟩ := unpriced_of_mem_readAll hs
  rw [base?_applyRules]
  constructor
  · intro hnone
    have hcharged : Charged t.terms s (applyRules t.terms (standard first) m s).1 :=
      charged_applyRules first
    simp only [Charged, hnone] at hcharged
    rw [hcharged.1, hnew]
  · intro base hbase
    obtain ⟨hgrant, hprice⟩ := pricing_of_base? (l := m) first hbase
    obtain ⟨_, _, _, hframe⟩ := applyRules_standard_frame (t := t.terms) first m s
    have hsize : (applyRules t.terms (standard first) m s).1.size = s.size := by rw [hframe]
    have hentitled : Entitled t.terms s base
        ((applyRules t.terms (standard first) m s).1.proposed.getD 0) := by
      rw [proposed_applyRules]
      exact entitled_assessed husable hproposed hbase
    generalize (applyRules t.terms (standard first) m s).1 = out at *
    obtain ⟨hlower, hupper⟩ : 0 ≤ out.discount.getD 0 ∧
        out.discount.getD 0 ≤ out.proposed.getD 0 + 1e-9 := by
      rw [hgrant]
      exact grant_bounds hentitled.nonneg
    have hle := hentitled.le_base
    refine ⟨hentitled.nonneg, hlower, hupper, hprice, by linarith, by linarith, fun hsmall => ?_⟩
    rw [hsize] at hsmall
    obtain ⟨least, hleast, hbound⟩ := hentitled.least hsmall
    exact ⟨least, hleast, by linarith⟩

/-- A small shipment that is granted what the ceiling leaves, and the free one of the month for
which it leaves nothing. -/
theorem price_bounds_of_standard :
    let t : Tariff ℚ := .standard
    let books : Ledger ℚ := (Ledger.empty.post (.month 2015 2) (.large 2)).post (.month 2015 2)
      (.granted 9.9)
    let e : Engine ℚ := ⟨standard 0, t.terms, books⟩
    let outs := (e.run (Shipment.readAll "2015-02-01 S MR\n2015-02-02 L LP\n".toList)).1
    t.accept = .ok e.terms ∧ outs.map e.terms.base? = [some 2, some 6.9] ∧
      outs.map (·.price) = [some 1.9, some 6.9] ∧
      ∀ out ∈ outs, ∀ base, e.terms.base? out = some base →
        0 ≤ out.discount.getD 0 ∧ out.discount.getD 0 ≤ out.proposed.getD 0 + 1e-9 ∧
          base - out.discount.getD 0 ≤ base := by
  intro t books e outs
  have h : t.accept = .ok e.terms := accept_eq_ok_iff.2
    ⟨⟨by decide +kernel, by decide, by decide, by decide +kernel, by decide, by decide +kernel⟩,
      rfl⟩
  refine ⟨h, by decide +kernel, by decide +kernel, fun out hout base hbase => ?_⟩
  obtain ⟨-, hlower, hupper, -, -, hle, -⟩ := (price_bounds 0 h books _ out hout).2 base hbase
  exact ⟨hlower, hupper, hle⟩

end ParcelPricing
