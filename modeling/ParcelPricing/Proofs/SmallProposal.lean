import ParcelPricing.Proofs.DoubleSum
import ParcelPricing.Proofs.StandardRules
import ParcelPricing.Tariff.Basic

namespace ParcelPricing
open Amount Double Rule

variable {t : Terms Float} {s : Shipment Float} {actual least : Float}

/-- A price is not below the least one, and if it is no number its difference is none either. -/
theorem PriceTable.IsLeastPrice.not_neg_sub {prices : PriceTable Float} {provider : Provider}
    {size : PackageSize} (h : prices.IsLeastPrice size least)
    (hprice : prices.price? provider size = some actual) : ¬ actual - least < 0.0 := by
  intro hneg
  have hdifference : IsNumber (actual - least) := (lt_iff.1 hneg).1
  rw [sub_eq] at hdifference
  have hactual : IsNumber actual := (isNumber_of_add hdifference).1
  exact Double.not_neg_sub (h.le hprice hactual) hneg

/-- What is proposed for a small shipment, whatever was proposed before. -/
theorem smallProposal_of_price? (hsmall : s.size = .small)
    (hprice : t.prices.price? s.provider .small = some actual)
    (hleast : t.prices.leastPrice? .small = some least) : t.smallProposal s =
      if smallestDifference < actual - least then some (actual - least) else none := by
  have hnonneg := (PriceTable.isLeastPrice_leastPrice? hleast).not_neg_sub hprice
  have hmagnitude : magnitude (actual - least) = actual - least := if_neg hnonneg
  simp only [Terms.smallProposal, hsmall, if_true, hprice, hleast, hmagnitude]

theorem smallestDifference_nonneg : (0 : Float) ≤ smallestDifference := by decide

/-- A difference that counts is a number above zero. -/
theorem nonneg_of_counts {d : Float} (h : smallestDifference < d) : IsNumber d ∧ 0 ≤ d := by
  have hle := Ordered.le_of_lt h
  exact ⟨(Ordered.isNumber hle).2, Ordered.le_trans smallestDifference_nonneg hle⟩

/-- From no table of prices does a proposal below zero come. -/
theorem smallProposal_nonneg (h : ∀ d ∈ s.proposed, 0 ≤ d) : ∀ d ∈ t.smallProposal s, 0 ≤ d := by
  intro d hd
  by_cases hsmall : s.size = .small
  · cases hprice : t.prices.price? s.provider .small with
    | none =>
      rw [Terms.smallProposal, if_pos hsmall, hsmall, hprice] at hd
      exact h d hd
    | some actual =>
      obtain ⟨least, hleast⟩ := PriceTable.exists_leastPrice? hprice
      rw [smallProposal_of_price? hsmall hprice hleast, Option.mem_def] at hd
      split at hd
      · rename_i hdifference
        obtain rfl := Option.some.inj hd
        exact (nonneg_of_counts hdifference).2
      · cases hd
  · rw [Terms.smallProposal, if_neg hsmall] at hd
    exact h d hd

/-- The proposal for a small shipment is what its provider asks above the least price, a number
above zero, or none. Proposing once more changes nothing. -/
theorem small_proposal (id : Nat) (l : Ledger Float) (hsmall : s.size = .small)
    (hprice : t.prices.price? s.provider .small = some actual) :
    let r := (lowestSmallPrice id).apply t l s
    ∃ least, t.prices.leastPrice? .small = some least ∧ t.prices.IsLeastPrice .small least ∧
      (∀ d ∈ r.1.proposed, d = actual - least ∧ smallestDifference < d ∧ IsNumber d ∧ 0 ≤ d) ∧
      (¬ least < actual → r.1.proposed = none) ∧
        (lowestSmallPrice id).apply r.2.2 r.2.1 r.1 = r := by
  intro r
  obtain ⟨least, hleast⟩ := PriceTable.exists_leastPrice? hprice
  have hr : r = ({ s with proposed := t.smallProposal s }, l, t) := apply_lowestSmallPrice id
  have hproposed : r.1.proposed =
      if smallestDifference < actual - least then some (actual - least) else none := by
    rw [hr, ← smallProposal_of_price? hsmall hprice hleast]
  refine ⟨least, hleast, PriceTable.isLeastPrice_leastPrice? hleast, fun d hd => ?_,
    fun hequal => ?_, ?_⟩
  · rw [hproposed, Option.mem_def] at hd
    split at hd
    · rename_i hdifference
      obtain rfl := Option.some.inj hd
      exact ⟨rfl, hdifference, nonneg_of_counts hdifference⟩
    · cases hd
  · rw [hproposed, if_neg]
    intro hdifference
    exact hequal (lt_of_pos_sub (Double.lt_of_le_of_lt smallestDifference_nonneg hdifference))
  · -- The proposal that is there before is not looked at.
    have hterms : r.2.2 = t := congrArg (·.2.2) hr
    have hagain : r.2.2.smallProposal r.1 = r.1.proposed := by
      rw [hterms, hproposed]
      refine smallProposal_of_price? (s := r.1) ?_ ?_ hleast
      · rw [hr]
        exact hsmall
      · rw [hr]
        exact hprice
    rw [apply_lowestSmallPrice, hagain]

/-- A price that is no number, an infinite one and two equal ones, of which the least is of an
unknown provider. What was proposed before goes in any case. -/
theorem small_proposal_of_mixed_prices :
    let prices : PriceTable Float := ((((PriceTable.empty.insert ⟨"AX"⟩ .small (0.0 / 0.0)).insert
      ⟨"DX"⟩ .small 1.5).insert ⟨"LP"⟩ .small 1.5).insert ⟨"MR"⟩ .small 2).insert
      ⟨"UX"⟩ .small (1.0 / 0.0)
    let t : Terms Float := { Tariff.standard.terms with prices }
    let parcel (provider : Provider) : Shipment Float :=
      { Shipment.unpriced (.unreadable "") .small provider with proposed := some (-3) }
    let proposal (provider : Provider) : Option Float :=
      ((lowestSmallPrice 1).apply t .empty (parcel provider)).1.proposed
    (∃ least, prices.leastPrice? .small = some least ∧
        (∀ d ∈ proposal ⟨"MR"⟩, d = 2 - least ∧ 0 ≤ d)) ∧ proposal ⟨"MR"⟩ = some 0.5 ∧
      proposal ⟨"LP"⟩ = none ∧ proposal ⟨"AX"⟩ = none ∧ proposal ⟨"UX"⟩ = some (1.0 / 0.0) := by
  intro prices t parcel proposal
  have hprice : t.prices.price? (parcel ⟨"MR"⟩).provider .small = some 2 := by decide +kernel
  obtain ⟨least, hleast, -, hproposal, -⟩ := small_proposal (t := t) 1 .empty
    (s := parcel ⟨"MR"⟩) rfl hprice
  refine ⟨⟨least, hleast, fun d hd => ?_⟩, by decide +kernel, by decide +kernel, by decide +kernel,
    by decide +kernel⟩
  obtain ⟨hdifference, -, -, hnonneg⟩ := hproposal d hd
  exact ⟨hdifference, hnonneg⟩

end ParcelPricing
