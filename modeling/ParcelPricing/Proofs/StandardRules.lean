import ParcelPricing.Pricing.Standard
import ParcelPricing.Proofs.Run

/-! What each standard rule does. Later modules do not open the rules again. -/
namespace ParcelPricing

variable {α : Type}

/-- A large shipment of the provider whose third one of a month is free. -/
def Shipment.IsLargeLaPoste (s : Shipment α) : Prop := s.provider = .laPoste ∧ s.size = .large

instance (s : Shipment α) : Decidable s.IsLargeLaPoste := inferInstanceAs (Decidable (_ ∧ _))

/-- A shipment that raises the count of a period. Whether it was set aside does not matter. -/
def Shipment.CountsIn (p : Period) (s : Shipment α) : Prop := s.period = p ∧ s.IsLargeLaPoste

instance (p : Period) (s : Shipment α) : Decidable (s.CountsIn p) :=
  inferInstanceAs (Decidable (_ ∧ _))

namespace Terms

def reads (t : Terms α) (s : Shipment α) : Bool :=
  s.date.isValid && t.knowsProvider s.provider && t.knowsSize s.size

/-- The price that a shipment is charged before any discount. Only known providers have one. -/
def base? (t : Terms α) (s : Shipment α) : Option α :=
  if t.knowsProvider s.provider then t.prices.price? s.provider s.size else none

theorem price?_of_base? {t : Terms α} {s : Shipment α} {base : α} (h : t.base? s = some base) :
    t.prices.price? s.provider s.size = some base := by
  rw [base?] at h
  split at h
  · exact h
  · cases h

variable [Amount α]

/-- The proposal of a shipment once small ones are matched with the cheapest provider. -/
def smallProposal (t : Terms α) (s : Shipment α) : Option α :=
  if s.size = .small then
    match t.prices.price? s.provider s.size, t.prices.leastPrice? s.size with
    | some actual, some least =>
      if Rule.smallestDifference < Amount.magnitude (actual - least) then some (actual - least)
      else none
    | _, _ => s.proposed
  else s.proposed

end Terms

namespace Rule
open Amount
variable [Amount α] {t : Terms α} {l : Ledger α} {s : Shipment α}

/-- What is granted of a proposal when `granted` is granted already: all of it while that stays
below the ceiling, else what the ceiling leaves. -/
def grant (ceiling granted : α) (proposed : Option α) : Option α :=
  if proposed.getD 0 + granted < ceiling then proposed else some (remainder ceiling granted)

theorem grant_of_fits {ceiling granted : α} {proposed : Option α}
    (h : proposed.getD 0 + granted < ceiling) : grant ceiling granted proposed = proposed :=
  if_pos h

theorem grant_of_not_fits {ceiling granted : α} {proposed : Option α}
    (h : ¬ proposed.getD 0 + granted < ceiling) :
    grant ceiling granted proposed = some (remainder ceiling granted) := if_neg h

/-- The books with a large shipment counted. -/
def counted (l : Ledger α) (s : Shipment α) : Ledger α :=
  if s.IsLargeLaPoste then l.post s.period (.large ((l.entry s.period).large + 1)) else l

/-- The proposal of a shipment once its month counts `large` large ones, this one included. -/
def freeProposal (t : Terms α) (large : UInt32) (s : Shipment α) : Option α :=
  if s.IsLargeLaPoste ∧ large = freeShipment then t.prices.price? s.provider s.size
  else s.proposed

/-- A shipment as it comes to its pricing: perhaps set aside, and with its proposal. -/
def assessed (t : Terms α) (l : Ledger α) (s : Shipment α) : Shipment α :=
  { s with
    ignored := s.ignored || !t.reads s
    proposed := freeProposal t ((counted l s).entry s.period).large
      { s with proposed := t.smallProposal s } }

/-- A shipment and the books after its pricing, for a shipment that has a base price. -/
def priced (t : Terms α) (l : Ledger α) (s : Shipment α) (base : α) : Shipment α × Ledger α :=
  let discount := grant t.ceiling (l.entry s.period).granted s.proposed
  charge l s base (discount.getD 0) discount

theorem apply_of_fires {r : Rule α} (h : r.fires t l s = true) :
    r.apply t l s = r.effect t l s := if_pos h

theorem apply_of_not_fires {r : Rule α} (h : ¬ r.fires t l s = true) :
    r.apply t l s = (s, l, t) := if_neg h

theorem apply_ignoreUnreadable (id : Nat) : (ignoreUnreadable id).apply t l s =
    ({ s with ignored := s.ignored || !t.reads s }, l, t) := by
  rw [apply_of_fires (r := ignoreUnreadable id) rfl]
  change (if t.reads s then (s, l, t) else ({ s with ignored := true }, l, t)) = _
  cases h : t.reads s with
  | true => simp
  | false => simp

theorem fires_lowestSmallPrice (id : Nat) :
    (lowestSmallPrice id).fires t l s = true ↔ s.size = .small := by
  simp [fires, lowestSmallPrice, Condition.holds]

theorem apply_lowestSmallPrice (id : Nat) : (lowestSmallPrice id).apply t l s =
    ({ s with proposed := t.smallProposal s }, l, t) := by
  by_cases hs : s.size = .small
  · rw [apply_of_fires ((fires_lowestSmallPrice id).2 hs), Terms.smallProposal, if_pos hs]
    simp only [lowestSmallPrice]
    cases t.prices.price? s.provider s.size with
    | none => rfl
    | some actual =>
      cases t.prices.leastPrice? s.size with
      | none => rfl
      | some least => rfl
  · rw [apply_of_not_fires (mt (fires_lowestSmallPrice id).1 hs), Terms.smallProposal, if_neg hs]

theorem holds_largeLaPoste :
    largeLaPoste.all (·.holds t l s) = true ↔ s.IsLargeLaPoste := by
  simp [largeLaPoste, Condition.holds, Shipment.IsLargeLaPoste]

theorem fires_countLarge (id : Nat) :
    (countLarge id).fires t l s = true ↔ s.IsLargeLaPoste := holds_largeLaPoste

theorem apply_countLarge (id : Nat) : (countLarge id).apply t l s = (s, counted l s, t) := by
  by_cases hs : s.IsLargeLaPoste
  · rw [apply_of_fires ((fires_countLarge id).2 hs), counted, if_pos hs]
    rfl
  · rw [apply_of_not_fires (mt (fires_countLarge id).1 hs), counted, if_neg hs]

theorem fires_thirdLargeFree (id : Nat) : (thirdLargeFree id).fires t l s = true ↔
    s.IsLargeLaPoste ∧ (l.entry s.period).large = freeShipment := by
  simp only [fires, thirdLargeFree, List.all_append, Bool.and_eq_true, holds_largeLaPoste]
  simp [Condition.holds]

theorem apply_thirdLargeFree (id : Nat) : (thirdLargeFree id).apply t l s =
    ({ s with proposed := freeProposal t (l.entry s.period).large s }, l, t) := by
  by_cases hs : s.IsLargeLaPoste ∧ (l.entry s.period).large = freeShipment
  · rw [apply_of_fires ((fires_thirdLargeFree id).2 hs), freeProposal, if_pos hs]
    rfl
  · rw [apply_of_not_fires (mt (fires_thirdLargeFree id).1 hs), freeProposal, if_neg hs]

theorem fires_applyPrice (id : Nat) :
    (applyPrice id).fires t l s = true ↔ t.knowsProvider s.provider = true := by
  simp [fires, applyPrice, Condition.holds]

theorem apply_applyPrice (id : Nat) : (applyPrice id).apply t l s =
    match t.base? s with
    | none => (s, l, t)
    | some base => ((priced t l s base).1, (priced t l s base).2, t) := by
  by_cases hk : t.knowsProvider s.provider = true
  · rw [apply_of_fires ((fires_applyPrice id).2 hk), Terms.base?, if_pos hk]
    simp only [applyPrice, priced, grant]
    cases t.prices.price? s.provider s.size with
    | none => rfl
    | some base =>
      by_cases hc : s.proposed.getD 0 + (l.entry s.period).granted < t.ceiling
      · simp only [if_pos hc]
      · simp only [if_neg hc, Option.getD_some]
  · rw [apply_of_not_fires (mt (fires_applyPrice id).1 hk), Terms.base?, if_neg hk]

/-- The five standard rules, under any identities. -/
inductive IsStandard : Rule α → Prop
  | ignoreUnreadable (id : Nat) : IsStandard (ignoreUnreadable id)
  | lowestSmallPrice (id : Nat) : IsStandard (lowestSmallPrice id)
  | countLarge (id : Nat) : IsStandard (countLarge id)
  | thirdLargeFree (id : Nat) : IsStandard (thirdLargeFree id)
  | applyPrice (id : Nat) : IsStandard (applyPrice id)

theorem isStandard_of_mem {r : Rule α} {first : Nat} (hr : r ∈ standard first) :
    r.IsStandard := by
  simp only [standard, List.mem_cons, List.not_mem_nil, or_false] at hr
  rcases hr with rfl | rfl | rfl | rfl | rfl
  · exact .ignoreUnreadable _
  · exact .lowestSmallPrice _
  · exact .countLarge _
  · exact .thirdLargeFree _
  · exact .applyPrice _

/-- A standard rule leaves the terms as they are. -/
theorem IsStandard.terms_apply {r : Rule α} (hr : r.IsStandard) (t : Terms α) (l : Ledger α)
    (s : Shipment α) : (r.apply t l s).2.2 = t := by
  cases hr with
  | ignoreUnreadable id => rw [apply_ignoreUnreadable]
  | lowestSmallPrice id => rw [apply_lowestSmallPrice]
  | countLarge id => rw [apply_countLarge]
  | thirdLargeFree id => rw [apply_thirdLargeFree]
  | applyPrice id =>
    rw [apply_applyPrice]
    cases t.base? s with
    | none => rfl
    | some base => rfl

theorem keepTerms_standard (first : Nat) : KeepTerms (standard first : List (Rule α)) :=
  fun _ hr => (isStandard_of_mem hr).terms_apply

/-- The standard rules before the pricing. -/
def proposing (first : Nat) : List (Rule α) :=
  [ignoreUnreadable first, lowestSmallPrice (first + 1), countLarge (first + 2),
    thirdLargeFree (first + 3)]

theorem standard_eq (first : Nat) :
    (standard first : List (Rule α)) = proposing first ++ [applyPrice (first + 4)] := rfl

/-- The rules before the pricing leave the books with the shipment counted and nothing else. -/
theorem applyRules_proposing (first : Nat) :
    applyRules t (proposing first) l s = (assessed t l s, counted l s, t) := by
  rw [proposing, applyRules_cons, apply_ignoreUnreadable, applyRules_cons, apply_lowestSmallPrice,
    applyRules_cons, apply_countLarge, applyRules_cons, apply_thirdLargeFree]
  rfl

theorem applyRules_standard (first : Nat) : applyRules t (standard first) l s =
    match t.base? s with
    | none => (assessed t l s, counted l s, t)
    | some base =>
      let (out, m) := priced t (counted l s) (assessed t l s) base
      (out, m, t) := by
  rw [standard_eq, applyRules_append, applyRules_proposing, applyRules_cons, apply_applyPrice]
  rfl

theorem granted_counted (p : Period) :
    ((counted l s).entry p).granted = (l.entry p).granted := by
  rw [counted]
  split
  · rw [Ledger.entry_post]
    split <;> simp_all
  · rfl

/-- A shipment that is neither counted nor charged leaves the books as they are. -/
theorem books_of_other (first : Nat) (hlarge : ¬ s.IsLargeLaPoste) (hbase : t.base? s = none) :
    (applyRules t (standard first) l s).2.1 = l := by
  rw [applyRules_standard, hbase]
  exact if_neg hlarge

/-- A shipment keeps what it came with but for three amounts, and is set aside if it cannot be
read. -/
theorem applyRules_standard_frame (first : Nat) (l : Ledger α) (s : Shipment α) :
    ∃ proposed price discount, (applyRules t (standard first) l s).1 =
      { s with proposed, price, discount, ignored := s.ignored || !t.reads s } := by
  rw [applyRules_standard]
  cases t.base? s with
  | none => exact ⟨_, _, _, rfl⟩
  | some base => exact ⟨_, _, _, rfl⟩

theorem base?_applyRules (first : Nat) (l : Ledger α) (s : Shipment α) :
    t.base? (applyRules t (standard first) l s).1 = t.base? s := by
  obtain ⟨proposed, price, discount, hframe⟩ := applyRules_standard_frame (t := t) first l s
  rw [hframe]
  rfl

/-- A shipment with a base price is granted what its month allows of its proposal, and is charged
the rest. -/
theorem pricing_of_base? {base : α} (first : Nat) (h : t.base? s = some base) :
    let out := (applyRules t (standard first) l s).1
    out.discount = grant t.ceiling (l.entry s.period).granted out.proposed ∧
      out.price = some (base - out.discount.getD 0) := by
  rw [applyRules_standard, h, ← granted_counted (s := s) (l := l) s.period]
  exact ⟨rfl, rfl⟩

/-- What comes to its pricing is an assessed shipment, on books that count it. -/
theorem pricing_step {first : Nat} {st : Step α} {xs : List (Shipment α)}
    (h : st ∈ stepsOf t (standard first) l xs) (hr : st.rule = applyPrice (first + 4)) :
    ∃ s ∈ xs, ∃ l', st.shipment = assessed t l' s ∧ st.before = counted l' s := by
  induction xs generalizing l with
  | nil => cases h
  | cons s xs ih =>
    rw [stepsOf_cons (keepTerms_standard first)] at h
    rcases List.mem_append.1 h with h | h
    · refine ⟨s, List.mem_cons_self, l, ?_⟩
      simp only [standard, stepsThrough, apply_ignoreUnreadable, apply_lowestSmallPrice,
        apply_countLarge, apply_thirdLargeFree, List.mem_cons, List.not_mem_nil, or_false] at h
      have hid := congrArg Rule.id hr
      rcases h with rfl | rfl | rfl | rfl | rfl
      · exact absurd (show first = first + 4 from hid) (by omega)
      · exact absurd (show first + 1 = first + 4 from hid) (by omega)
      · exact absurd (show first + 2 = first + 4 from hid) (by omega)
      · exact absurd (show first + 3 = first + 4 from hid) (by omega)
      · exact ⟨rfl, rfl⟩
    · obtain ⟨s', hs', hst⟩ := ih h
      exact ⟨s', List.mem_cons_of_mem _ hs', hst⟩

theorem proposed_assessed : (assessed t l s).proposed =
    if s.IsLargeLaPoste ∧ ((counted l s).entry s.period).large = freeShipment then
      t.prices.price? s.provider s.size
    else t.smallProposal s := rfl

/-- Only small shipments and the counted ones are given a proposal. -/
theorem proposed_assessed_of_other (hsmall : s.size ≠ .small) (hlarge : ¬ s.IsLargeLaPoste) :
    (assessed t l s).proposed = s.proposed := by
  rw [proposed_assessed, if_neg fun h => hlarge h.1]
  exact if_neg hsmall

theorem proposed_applyRules (first : Nat) :
    (applyRules t (standard first) l s).1.proposed = (assessed t l s).proposed := by
  rw [applyRules_standard]
  cases t.base? s with
  | none => rfl
  | some base => rfl

theorem large_counted (p : Period) : ((counted l s).entry p).large =
    (l.entry p).large + if s.CountsIn p then 1 else 0 := by
  by_cases hs : s.IsLargeLaPoste
  · by_cases hp : s.period = p
    · subst hp
      simp [counted, Shipment.CountsIn, hs, Ledger.entry_post]
    · simp [counted, Shipment.CountsIn, hs, hp, Ledger.entry_post, Ne.symm hp]
  · simp [counted, Shipment.CountsIn, hs]

theorem entry_priced (base : α) (p : Period) : (priced t l s base).2.entry p =
    if p = s.period then
      (l.entry p).post (.granted ((l.entry p).granted + (priced t l s base).1.discount.getD 0))
    else l.entry p := by
  simp only [priced, charge, Ledger.entry_post]
  by_cases hp : p = s.period
  · rw [if_pos hp, if_pos hp, hp]
  · rw [if_neg hp, if_neg hp]

theorem large_priced (base : α) (p : Period) :
    ((priced t l s base).2.entry p).large = (l.entry p).large := by
  rw [entry_priced]
  split
  · rfl
  · rfl

/-- Of the standard rules the pricing alone touches what a month has granted. -/
theorem granted_apply {r : Rule α} {first : Nat} (hr : r ∈ standard first) (p : Period) :
    ((r.apply t l s).2.1.entry p).granted = (l.entry p).granted ∨
      r = applyPrice (first + 4) ∧ ((r.apply t l s).2.1.entry p).granted =
        (l.entry p).granted + (grant t.ceiling (l.entry p).granted s.proposed).getD 0 := by
  simp only [standard, List.mem_cons, List.not_mem_nil, or_false] at hr
  rcases hr with rfl | rfl | rfl | rfl | rfl
  · rw [apply_ignoreUnreadable]
    exact Or.inl rfl
  · rw [apply_lowestSmallPrice]
    exact Or.inl rfl
  · rw [apply_countLarge]
    exact Or.inl (granted_counted p)
  · rw [apply_thirdLargeFree]
    exact Or.inl rfl
  · rw [apply_applyPrice]
    cases t.base? s with
    | none => exact Or.inl rfl
    | some base =>
      by_cases hp : p = s.period
      · subst hp
        refine Or.inr ⟨rfl, ?_⟩
        simp only [entry_priced, if_true, MonthEntry.granted_post_granted]
        rfl
      · simp only [entry_priced, if_neg hp, true_or]

end Rule

end ParcelPricing
