import Mathlib.Algebra.Order.Ring.Rat
import Mathlib.Order.Bounds.Defs
import ParcelPricing.Amount.Exact
import ParcelPricing.Pricing.PriceTable

namespace ParcelPricing

/-- Amounts whose order is what it should be among numbers, and has nothing to say of what is no
number. -/
class Amount.Ordered (α : Type) [Amount α] : Prop where
  isNumber {a b : α} : a ≤ b → Amount.IsNumber a ∧ Amount.IsNumber b
  le_trans {a b c : α} : a ≤ b → b ≤ c → a ≤ c
  le_of_lt {a b : α} : a < b → a ≤ b
  le_of_not_lt {a b : α} : Amount.IsNumber a → Amount.IsNumber b → ¬ a < b → b ≤ a

instance : Amount.Ordered ℚ where
  isNumber _ := ⟨le_refl _, le_refl _⟩
  le_trans := le_trans
  le_of_lt := le_of_lt
  le_of_not_lt _ _ := not_lt.1

namespace Amount
variable {α : Type} [Amount α] {a b least : α} {as : List α}

theorem lesser_eq_or (a b : α) : lesser a b = a ∨ lesser a b = b := by
  unfold lesser
  split
  · exact Or.inl rfl
  · split
    · exact Or.inr rfl
    · exact Or.inl rfl

theorem foldl_lesser_mem (a : α) (as : List α) : as.foldl lesser a ∈ a :: as := by
  induction as generalizing a with
  | nil => exact List.mem_cons_self
  | cons b as ih =>
    rcases List.mem_cons.1 (ih (lesser a b)) with h | h
    · rw [List.foldl_cons, h]
      rcases lesser_eq_or a b with hab | hab
      · rw [hab]
        exact List.mem_cons_self
      · rw [hab]
        exact List.mem_cons_of_mem _ List.mem_cons_self
    · exact List.mem_cons_of_mem _ (List.mem_cons_of_mem _ h)

theorem least?_mem (h : least? as = some least) : least ∈ as := by
  cases as with
  | nil => cases h
  | cons a as =>
    obtain rfl := Option.some.inj h
    exact foldl_lesser_mem a as

theorem isSome_least? : (least? as).isSome ↔ as ≠ [] := by
  cases as with
  | nil => simp [least?]
  | cons a as => simp [least?]

variable [Ordered α]

theorem lesser_le_left (ha : IsNumber a) : lesser a b ≤ a := by
  by_cases hab : a < b
  · rw [lesser, if_pos hab]
    exact ha
  · rw [lesser, if_neg hab]
    by_cases hb : IsNumber b
    · rw [if_pos hb]
      exact Ordered.le_of_not_lt ha hb hab
    · rw [if_neg hb]
      exact ha

theorem lesser_le_right (hb : IsNumber b) : lesser a b ≤ b := by
  by_cases hab : a < b
  · rw [lesser, if_pos hab]
    exact Ordered.le_of_lt hab
  · rw [lesser, if_neg hab, if_pos hb]
    exact hb

/-- What is no number does not hide a number that comes after it or before it. -/
theorem foldl_lesser_le (hb : IsNumber b) (h : b ∈ a :: as) : as.foldl lesser a ≤ b := by
  induction as generalizing a b with
  | nil =>
    obtain rfl := List.mem_singleton.1 h
    exact hb
  | cons c as ih =>
    -- Both of the first two amounts lie above the lesser of them.
    have hfirst : ∀ {x : α}, lesser a c ≤ x → (c :: as).foldl lesser a ≤ x := fun hle =>
      Ordered.le_trans (ih (Ordered.isNumber hle).1 List.mem_cons_self) hle
    rcases List.mem_cons.1 h with rfl | h
    · exact hfirst (lesser_le_left hb)
    · rcases List.mem_cons.1 h with rfl | h
      · exact hfirst (lesser_le_right hb)
      · exact ih hb (List.mem_cons_of_mem _ h)

theorem least?_le (h : least? as = some least) (hb : IsNumber b) (hmem : b ∈ as) : least ≤ b := by
  cases as with
  | nil => cases h
  | cons a as =>
    obtain rfl := Option.some.inj h
    exact foldl_lesser_le hb hmem

end Amount

namespace PriceTable
variable {α : Type} {t : PriceTable α} {provider : Provider} {size : PackageSize} {price : α}

theorem mem_pricesOf :
    price ∈ t.pricesOf size ↔ ∃ provider, t.price? provider size = some price := by
  simp only [pricesOf, price?, List.mem_map, List.mem_filter, decide_eq_true_eq]
  constructor
  · rintro ⟨⟨⟨provider, _⟩, _⟩, ⟨hmem, rfl⟩, rfl⟩
    exact ⟨provider, t.cells.mem_toList.1 hmem⟩
  · rintro ⟨provider, hprice⟩
    exact ⟨(⟨provider, size⟩, price), ⟨t.cells.mem_toList.2 hprice, rfl⟩, rfl⟩

/-- Whatever has a price has a least price. -/
theorem exists_leastPrice? [Amount α] (h : t.price? provider size = some price) :
    ∃ least, t.leastPrice? size = some least := by
  have hne : t.pricesOf size ≠ [] := List.ne_nil_of_mem (mem_pricesOf.2 ⟨provider, h⟩)
  exact Option.isSome_iff_exists.1 (Amount.isSome_least?.2 hne)

/-- One of the prices of a size, and at most each of them that is a number. It is no number itself only
if none of them is. -/
structure IsLeastPrice [Amount α] (t : PriceTable α) (size : PackageSize) (least : α) : Prop where
  listed : ∃ provider, t.price? provider size = some least
  le {provider : Provider} {price : α} (hprice : t.price? provider size = some price)
    (hnumber : Amount.IsNumber price) : least ≤ price

theorem isLeastPrice_leastPrice? [Amount α] [Amount.Ordered α] {least : α}
    (h : t.leastPrice? size = some least) : t.IsLeastPrice size least where
  listed := mem_pricesOf.1 (Amount.least?_mem h)
  le hprice hnumber := Amount.least?_le h hnumber (mem_pricesOf.2 ⟨_, hprice⟩)

theorem isLeast_leastPrice? {t : PriceTable ℚ} {least : ℚ} (h : t.leastPrice? size = some least) :
    IsLeast {price | ∃ provider, t.price? provider size = some price} least := by
  constructor
  · exact mem_pricesOf.1 (Amount.least?_mem h)
  · intro price hprice
    exact Amount.least?_le h (le_refl price) (mem_pricesOf.2 hprice)

end PriceTable

end ParcelPricing
