import ParcelPricing.Proofs.StandardRules

/-! Rules that do not meet in the books can have a pass of their own. -/
namespace ParcelPricing

variable {α : Type} {f g k : Effect α}

/-- Effects that do not meet in the books. Two shipments, each of which goes through one of them,
may do so in either order. -/
structure Apart (f g : Effect α) : Prop where
  left (t : Terms α) (l : Ledger α) (s s' : Shipment α) :
    (f (g t l s').2.2 (g t l s').2.1 s).1 = (f t l s).1
  right (t : Terms α) (l : Ledger α) (s s' : Shipment α) :
    (g (f t l s).2.2 (f t l s).2.1 s').1 = (g t l s').1
  books (t : Terms α) (l : Ledger α) (s s' : Shipment α) :
    (f (g t l s').2.2 (g t l s').2.1 s).2 = (g (f t l s).2.2 (f t l s).2.1 s').2

namespace Apart

theorem symm (h : Apart f g) : Apart g f where
  left t l s s' := h.right t l s' s
  right t l s s' := h.left t l s' s
  books t l s s' := (h.books t l s' s).symm

theorem comp (hf : Apart f k) (hg : Apart g k) :
    Apart (fun t l s => g (f t l s).2.2 (f t l s).2.1 (f t l s).1) k where
  left t l s s' := by rw [hf.left, hf.books, hg.left]
  right t l s s' := by rw [hg.right, hf.right]
  books t l s s' := by rw [hf.left, hf.books, hg.books]

/-- An effect that has nothing to do with the books is apart from every other that keeps the
terms. -/
theorem of_bookless {c : Terms α → Shipment α → Shipment α}
    (hf : ∀ t l s, f t l s = (c t s, l, t)) (hg : ∀ t l s, (g t l s).2.2 = t) : Apart f g where
  left t l s s' := by rw [hf, hf, hg]
  right t l s s' := by rw [hf]
  books t l s s' := by rw [hf, hf]

end Apart

variable [Amount α] {t : Terms α} {l : Ledger α} {s : Shipment α} {rules front rest : List (Rule α)}

theorem apart_applyRules (h : ∀ r ∈ rules, Apart (fun t l s => r.apply t l s) g) :
    Apart (fun t l s => applyRules t rules l s) g := by
  induction rules with
  | nil => exact ⟨fun _ _ _ _ => rfl, fun _ _ _ _ => rfl, fun _ _ _ _ => rfl⟩
  | cons r rules ih =>
    exact (h r List.mem_cons_self).comp (ih fun r' hr' => h r' (List.mem_cons_of_mem _ hr'))

/-- What is apart from the rules of a run may come before the run or after it. -/
theorem Apart.run (h : Apart (fun t l s => applyRules t rules l s) g) (t : Terms α) (l : Ledger α)
    (s : Shipment α) (xs : List (Shipment α)) :
    (runRules (g t l s).2.2 rules (g t l s).2.1 xs).1 = (runRules t rules l xs).1 ∧
      (g (runRules t rules l xs).2.2 (runRules t rules l xs).2.1 s).1 = (g t l s).1 ∧
      (runRules (g t l s).2.2 rules (g t l s).2.1 xs).2 =
        (g (runRules t rules l xs).2.2 (runRules t rules l xs).2.1 s).2 := by
  induction xs generalizing t l with
  | nil => exact ⟨rfl, rfl, rfl⟩
  | cons s' xs ih =>
    obtain ⟨hout, hlate, hbooks⟩ := ih (applyRules t rules l s').2.2 (applyRules t rules l s').2.1
    have hfirst := h.left t l s' s
    have hmeet := h.books t l s' s
    simp only [runRules_cons, hfirst, hmeet]
    refine ⟨by rw [hout], ?_, hbooks⟩
    exact hlate.trans (h.right t l s' s)

/-- Rules that are apart from those after them can be given a pass of their own. -/
theorem runRules_two_passes (h : ∀ r ∈ front, ∀ r' ∈ rest,
      Apart (fun t l s => r.apply t l s) fun t l s => r'.apply t l s)
    (t : Terms α) (l : Ledger α) (xs : List (Shipment α)) : runRules t (front ++ rest) l xs =
      runRules (runRules t front l xs).2.2 rest (runRules t front l xs).2.1
        (runRules t front l xs).1 := by
  have hapart : Apart (fun t l s => applyRules t front l s) fun t l s => applyRules t rest l s :=
    apart_applyRules fun r hr => (apart_applyRules fun r' hr' => (h r hr r' hr').symm).symm
  induction xs generalizing t l with
  | nil => rfl
  | cons s xs ih =>
    -- The rest takes the first shipment while the front has not seen the others.
    obtain ⟨hout, hlate, hbooks⟩ := hapart.run (applyRules t front l s).2.2
      (applyRules t front l s).2.1 (applyRules t front l s).1 xs
    simp only [runRules_cons, applyRules_append, ih, hout, hlate, hbooks]

namespace Rule

theorem priced_counted (base : α) (s' : Shipment α) :
    (priced t (counted l s') s base).1 = (priced t l s base).1 := by
  simp only [priced, charge, granted_counted]

/-- A month counts and grants in either order. -/
theorem counted_priced (base : α) (s' : Shipment α) :
    counted (priced t l s base).2 s' = (priced t (counted l s') s base).2 := by
  by_cases hs : s'.IsLargeLaPoste
  · have hlarge := large_priced (t := t) (l := l) (s := s) base s'.period
    have hgranted := granted_counted (l := l) (s := s') s.period
    rw [counted, if_pos hs, hlarge]
    simp only [priced, charge, hgranted]
    rw [counted, if_pos hs]
    exact Ledger.post_granted_large ..
  · rw [counted, counted, if_neg hs, if_neg hs]

theorem apart_applyPrice {r : Rule α} {first : Nat} (id : Nat) (hr : r ∈ proposing first) :
    Apart (fun t l s => r.apply t l s) fun t l s => (applyPrice id).apply t l s := by
  have hprice : ∀ (t : Terms α) l s, ((applyPrice id).apply t l s).2.2 = t :=
    (IsStandard.applyPrice id).terms_apply
  simp only [proposing, List.mem_cons, List.not_mem_nil, or_false] at hr
  rcases hr with rfl | rfl | rfl | rfl
  · exact .of_bookless (fun _ _ _ => apply_ignoreUnreadable first) hprice
  · exact .of_bookless (fun _ _ _ => apply_lowestSmallPrice (first + 1)) hprice
  · simp only [apply_countLarge, apply_applyPrice]
    refine ⟨fun _ _ _ _ => rfl, fun t l s s' => ?_, fun t l s s' => ?_⟩
    · cases t.base? s' with
      | none => rfl
      | some base => exact priced_counted base s
    · cases t.base? s' with
      | none => rfl
      | some base => exact Prod.ext (counted_priced base s) rfl
  · simp only [apply_thirdLargeFree, apply_applyPrice]
    refine ⟨fun t l s s' => ?_, fun _ _ _ _ => rfl, fun _ _ _ _ => rfl⟩
    cases t.base? s' with
    | none => rfl
    | some base => simp only [large_priced]

end Rule

open Rule

/-- The standard rules do the same as a pass that only proposes, followed by a pass that prices what
the first one gave. -/
theorem two_passes (first other id : Nat) (t : Terms α) (l : Ledger α) (xs : List (Shipment α)) :
    let e : Engine α := ⟨standard first, t, l⟩
    let proposals := Engine.run ⟨proposing other, t, l⟩ xs
    let pricing : Engine α := ⟨[applyPrice id], proposals.2.terms, proposals.2.ledger⟩
    (e.run xs).1 = (pricing.run proposals.1).1 ∧
      (e.run xs).2.ledger = (pricing.run proposals.1).2.ledger := by
  intro e proposals pricing
  have hrules : ∀ t l s, applyRules t (standard first : List (Rule α)) l s =
      applyRules t (proposing other ++ [applyPrice id]) l s := by
    intro t l s
    rw [standard_eq, applyRules_append, applyRules_append, applyRules_proposing,
      applyRules_proposing, applyRules_cons, applyRules_cons, apply_applyPrice, apply_applyPrice]
  have hpasses : runRules t (standard first) l xs =
      runRules proposals.2.terms [applyPrice id] proposals.2.ledger proposals.1 := by
    rw [runRules_congr hrules]
    refine runRules_two_passes (fun r hr r' hr' => ?_) t l xs
    obtain rfl := List.mem_singleton.1 hr'
    exact apart_applyPrice id hr
  have hout := congrArg Prod.fst hpasses
  have hbooks := congrArg (·.2.1) hpasses
  exact ⟨hout, hbooks⟩

end ParcelPricing
