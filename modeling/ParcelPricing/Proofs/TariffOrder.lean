import Mathlib.Data.List.Nodup
import ParcelPricing.Proofs.RuleOrder
import ParcelPricing.Proofs.TariffTerms

/-! Tariffs that list the same in another order have the same terms. -/
namespace ParcelPricing

variable {α : Type}

theorem SortedSet.ext_contains {κ : Type} [Ord κ] [Std.TransOrd κ] [Std.LawfulEqOrd κ]
    {m m' : SortedSet κ} (h : ∀ k, m.contains k = true ↔ m'.contains k = true) : m = m' := by
  refine SortedMap.ext_get? fun k => ?_
  have hk : (m.get? k).isSome = (m'.get? k).isSome := Bool.eq_iff_iff.2 (h k)
  cases hm : m.get? k with
  | none =>
    rw [hm, Option.isSome_none, eq_comm, Option.isSome_eq_false_iff, Option.isNone_iff_eq_none] at hk
    exact hk.symm
  | some _ =>
    rw [hm, Option.isSome_some, eq_comm, Option.isSome_iff_exists] at hk
    obtain ⟨_, hm'⟩ := hk
    exact hm'.symm

/-- The same set is made of the same keys. -/
theorem SortedSet.ofKeys_congr {κ : Type} [Ord κ] [Std.TransOrd κ] [Std.LawfulEqOrd κ]
    {keys keys' : List κ} (h : ∀ k, k ∈ keys ↔ k ∈ keys') : ofKeys keys = ofKeys keys' :=
  ext_contains fun k => by rw [contains_ofKeys, contains_ofKeys, h]

namespace Tariff

/-- Tariffs that differ in nothing but the order of what they list, and in how often they name what
is known. -/
structure Reordered (t u : Tariff α) : Prop where
  ceiling : t.ceiling = u.ceiling
  prices : t.prices.Perm u.prices
  providers (code : String) : code ∈ t.providers ↔ code ∈ u.providers
  sizes (code : String) : code ∈ t.sizes ↔ code ∈ u.sizes

variable {t u : Tariff α}

theorem Reordered.symm (h : t.Reordered u) : u.Reordered t where
  ceiling := h.ceiling.symm
  prices := h.prices.symm
  providers code := (h.providers code).symm
  sizes code := (h.sizes code).symm

/-- Where no pair has two lines, the table answers with the line of a pair, wherever it stands. -/
theorem price?_terms_eq_some_iff (h : (t.prices.map PriceLine.pair).Nodup) {provider : Provider}
    {size : PackageSize} {price : α} : t.terms.prices.price? provider size = some price ↔
      ∃ line ∈ t.prices, ⟨line.provider⟩ = provider ∧ .ofCode line.size = size ∧
        line.price = price := by
  have hline : ∀ line ∈ t.prices,
      t.terms.prices.price? ⟨line.provider⟩ (.ofCode line.size) = some line.price := by
    intro line hmem
    rw [price?_terms h, priceOf?_eq]
    obtain ⟨found, hfound⟩ : ∃ found, t.prices.find? (fun other => other.pair = line.pair) =
        some found :=
      Option.isSome_iff_exists.1 (List.find?_isSome.2 ⟨line, hmem, decide_eq_true rfl⟩)
    have hpair : found.pair = line.pair := by simpa using List.find?_some hfound
    obtain rfl := List.inj_on_of_nodup_map h (List.mem_of_find?_eq_some hfound) hmem hpair
    exact congrArg (Option.map _) hfound
  constructor
  · intro hprice
    obtain ⟨line, hmem, rfl, rfl⟩ := listed_of_price?_terms (Option.isSome_of_eq_some hprice)
    exact ⟨line, hmem, rfl, rfl, Option.some.inj ((hline line hmem).symm.trans hprice)⟩
  · rintro ⟨line, hmem, rfl, rfl, rfl⟩
    exact hline line hmem

theorem Reordered.terms_eq (h : t.Reordered u) (hdistinct : (t.prices.map PriceLine.pair).Nodup) :
    t.terms = u.terms := by
  have hdistinct' : (u.prices.map PriceLine.pair).Nodup :=
    (h.prices.map PriceLine.pair).nodup_iff.1 hdistinct
  have hprices : t.terms.prices = u.terms.prices := by
    refine PriceTable.ext_price? fun provider size => Option.ext fun price => ?_
    rw [price?_terms_eq_some_iff hdistinct, price?_terms_eq_some_iff hdistinct']
    simp only [h.prices.mem_iff]
  have hproviders : t.terms.providers = u.terms.providers :=
    SortedSet.ofKeys_congr fun provider => by simp only [List.mem_map, h.providers]
  have hsizes : t.terms.sizes = u.terms.sizes :=
    SortedSet.ofKeys_congr fun size => by simp only [List.mem_map, h.sizes]
  rw [Terms.mk.injEq]
  exact ⟨hprices, h.ceiling, hproviders, hsizes⟩

variable [Amount α]

theorem Usable.reordered (husable : t.Usable) (h : t.Reordered u) : u.Usable where
  ceiling := h.ceiling ▸ husable.ceiling
  providers hnil := husable.providers (List.eq_nil_iff_forall_not_mem.2 fun code hcode =>
    List.not_mem_nil (hnil ▸ (h.providers code).1 hcode))
  sizes hnil := husable.sizes (List.eq_nil_iff_forall_not_mem.2 fun code hcode =>
    List.not_mem_nil (hnil ▸ (h.sizes code).1 hcode))
  prices line hline := husable.prices line (h.prices.mem_iff.2 hline)
  distinct := (h.prices.map PriceLine.pair).nodup_iff.1 husable.distinct
  complete provider hprovider size hsize := by
    obtain ⟨line, hline, hpair⟩ := isSome_priceOf?.1
      (husable.complete provider ((h.providers provider).2 hprovider) size ((h.sizes size).2 hsize))
    exact isSome_priceOf?.2 ⟨line, h.prices.mem_iff.1 hline, hpair⟩

end Tariff

open Rule Tariff
variable [Amount α]

/-- A tariff listed in another order is accepted if and only if the tariff is, and the standard
rules do the same under both. -/
theorem tariff_order_free (first other : Nat) {t u : Tariff α} (h : t.Reordered u) :
    ((∃ terms, t.accept = .ok terms) ↔ ∃ terms, u.accept = .ok terms) ∧
      ∀ terms terms', t.accept = .ok terms → u.accept = .ok terms' → ∀ l : Ledger α,
        Engine.Agrees ⟨standard first, terms, l⟩ ⟨standard other, terms', l⟩ := by
  constructor
  · constructor
    · rintro ⟨_, hterms⟩
      exact ⟨u.terms, accept_eq_ok_iff.2 ⟨(accept_eq_ok_iff.1 hterms).1.reordered h, rfl⟩⟩
    · rintro ⟨_, hterms⟩
      exact ⟨t.terms, accept_eq_ok_iff.2 ⟨(accept_eq_ok_iff.1 hterms).1.reordered h.symm, rfl⟩⟩
  · intro terms terms' hterms hterms' l
    obtain ⟨husable, rfl⟩ := accept_eq_ok_iff.1 hterms
    obtain ⟨-, rfl⟩ := accept_eq_ok_iff.1 hterms'
    rw [← h.terms_eq husable.distinct]
    refine Engine.agrees_of_applyRules (fun v m s => ?_) t.terms l
    rw [applyRules_standard, applyRules_standard]

/-- Lines in reverse, a provider named twice, and two equal prices of which one is a negative
zero. -/
theorem tariff_order_free_of_reversed :
    let lines : List (PriceLine Float) := [⟨"LP", "S", 0⟩, ⟨"MR", "S", -0.0⟩, ⟨"DX", "S", 3⟩]
    let t : Tariff Float := ⟨10, ["LP", "MR"], ["S"], lines⟩
    let u : Tariff Float := ⟨10, ["MR", "LP", "MR"], ["S"], lines.reverse⟩
    t.accept = .ok t.terms ∧ u.accept = .ok u.terms ∧
      Engine.Agrees ⟨standard 0, t.terms, .empty⟩ ⟨standard 5, u.terms, .empty⟩ := by
  intro lines t u
  have h : t.Reordered u := by
    refine ⟨rfl, (List.reverse_perm lines).symm, fun code => ?_, fun code => Iff.rfl⟩
    simp only [t, u, List.mem_cons, List.not_mem_nil, or_false]
    tauto
  have ht : t.accept = .ok t.terms := accept_eq_ok_iff.2
    ⟨⟨by decide, by decide, by decide, by decide, by decide, by decide⟩, rfl⟩
  have hu : u.accept = .ok u.terms := accept_eq_ok_iff.2
    ⟨⟨by decide, by decide, by decide, by decide, by decide, by decide⟩, rfl⟩
  exact ⟨ht, hu, (tariff_order_free 0 5 h).2 _ _ ht hu .empty⟩

end ParcelPricing
