import ParcelPricing.Proofs.Ceiling
import ParcelPricing.Proofs.OneDigit

/-! What a proposal is worth, with amounts as exact rationals. -/
namespace ParcelPricing
open Amount Rule

namespace Rule
variable {ceiling granted : ℚ} {proposed : Option ℚ}

theorem remainder_of_not_lt (h : ceiling ≤ granted) : remainder ceiling granted = 0 := by
  have hheadroom : ceiling - granted ≤ 0 := by linarith
  have hrounded := oneDigit_nonpos hheadroom
  rw [remainder_eq_max]
  apply max_eq_right
  split
  · exact hheadroom
  · exact hrounded

/-- Of what is left all is granted, or what one digit of it makes. -/
theorem remainder_of_lt (h : granted < ceiling) :
    (remainder ceiling granted = ceiling - granted ∨ IsOneDigit (remainder ceiling granted)) ∧
      2 / 3 * (ceiling - granted) ≤ remainder ceiling granted ∧
      remainder ceiling granted ≤ ceiling - granted + 1e-9 := by
  have hheadroom : 0 < ceiling - granted := by linarith
  obtain ⟨hdigit, hbound⟩ := oneDigit_of_pos hheadroom
  rw [remainder_eq_max]
  split
  · rw [max_eq_left hheadroom.le]
    exact ⟨Or.inl rfl, by linarith, by linarith⟩
  · rename_i hfits
    rw [max_eq_left (by linarith)]
    exact ⟨Or.inr hdigit, hbound.le, not_lt.1 hfits⟩

/-- What is granted of a proposal, by what the month has left. -/
theorem grant_worth (ceiling granted : ℚ) (hp : 0 ≤ proposed.getD 0) :
    let proposal := proposed.getD 0
    let headroom := ceiling - granted
    let amount := (grant ceiling granted proposed).getD 0
    (0 < headroom → 2 / 3 * min proposal headroom ≤ amount ∧
        amount ≤ min proposal headroom + 1e-9) ∧
      (headroom ≤ 0 → amount = 0) ∧
      (0 < headroom → ¬ granted + proposal < ceiling → amount = headroom ∨ IsOneDigit amount) := by
  intro proposal headroom amount
  by_cases hfits : proposal + granted < ceiling
  · have hamount : amount = proposal := congrArg (Option.getD · 0) (grant_of_fits hfits)
    have hle : proposal ≤ headroom := by simp only [headroom]; linarith
    have hmin : min proposal headroom = proposal := min_eq_left hle
    rw [hamount, hmin]
    refine ⟨fun _ => ⟨by linarith, by linarith⟩, fun h => le_antisymm (hle.trans h) hp, ?_⟩
    intro _ hclipped
    exact absurd (by rwa [add_comm] at hfits) hclipped
  · have hamount : amount = remainder ceiling granted :=
      congrArg (Option.getD · 0) (grant_of_not_fits hfits)
    have hle : headroom ≤ proposal := by simp only [headroom]; linarith
    have hmin : min proposal headroom = headroom := min_eq_right hle
    rw [hamount, hmin]
    refine ⟨fun h => (remainder_of_lt (sub_pos.1 h)).2, fun h => ?_, fun h _ => ?_⟩
    · exact remainder_of_not_lt (sub_nonpos.1 h)
    · exact (remainder_of_lt (sub_pos.1 h)).1

end Rule

variable {t : Terms ℚ} {l : Ledger ℚ} {s : Shipment ℚ} {base : ℚ}

/-- While a month has something left, a proposal is worth at least two thirds of itself or of what
is left, whichever is less, and no more than that but for the tolerance. -/
theorem clipped_worth (id : Nat) (hbase : t.base? s = some base) (hp : 0 ≤ s.proposed.getD 0) :
    let granted := (l.entry s.period).granted
    let headroom := t.ceiling - granted
    let proposal := s.proposed.getD 0
    let discount := ((applyPrice id).apply t l s).1.discount.getD 0
    (0 < headroom → 2 / 3 * min proposal headroom ≤ discount ∧
        discount ≤ min proposal headroom + 1e-9) ∧
      (granted + proposal < t.ceiling → discount = proposal) ∧
      (headroom ≤ 0 → discount = 0) ∧
      (0 < headroom → ¬ granted + proposal < t.ceiling →
        discount = headroom ∨ IsOneDigit discount) := by
  intro granted headroom proposal discount
  have hdiscount : discount = (grant t.ceiling granted s.proposed).getD 0 := by
    simp only [discount, apply_applyPrice, hbase]
    rfl
  obtain ⟨hbounds, hspent, hclipped⟩ := grant_worth t.ceiling granted hp
  rw [← hdiscount] at hbounds hspent hclipped
  refine ⟨hbounds, fun hfits => ?_, hspent, hclipped⟩
  rw [add_comm] at hfits
  rw [hdiscount, grant_of_fits hfits]

/-- What is left is rounded down, just below one digit and a half. -/
theorem clipped_worth_of_half_digit :
    let t : Terms ℚ := ⟨PriceTable.empty.insert .laPoste .medium 9, 10, .ofKeys [.laPoste],
      .ofKeys [.medium]⟩
    let parcel : Shipment ℚ :=
      { Shipment.unpriced (.unreadable "") .medium .laPoste with proposed := some 2 }
    let l : Ledger ℚ := Ledger.empty.post .undated (.granted 9.9851)
    let headroom := t.ceiling - (l.entry parcel.period).granted
    let discount := ((applyPrice 0).apply t l parcel).1.discount.getD 0
    t.base? parcel = some 9 ∧ 0 ≤ parcel.proposed.getD 0 ∧ headroom = 0.0149 ∧ discount = 0.01 ∧
      2 / 3 * min 2 headroom ≤ discount ∧ discount ≤ min 2 headroom + 1e-9 ∧
      (discount = headroom ∨ IsOneDigit discount) := by
  intro t parcel l headroom discount
  have hbase : t.base? parcel = some 9 := by decide +kernel
  have hp : 0 ≤ parcel.proposed.getD 0 := by decide +kernel
  have hheadroom : headroom = 0.0149 := by decide +kernel
  obtain ⟨hbounds, -, -, hclipped⟩ := clipped_worth (l := l) 0 hbase hp
  have hpos : 0 < headroom := by rw [hheadroom]; norm_num
  obtain ⟨hlower, hupper⟩ := hbounds hpos
  exact ⟨hbase, hp, hheadroom, by decide +kernel, hlower, hupper, hclipped hpos (by decide +kernel)⟩

end ParcelPricing
