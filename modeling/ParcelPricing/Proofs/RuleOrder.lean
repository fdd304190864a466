import ParcelPricing.Amount.Double
import ParcelPricing.Proofs.Months
import ParcelPricing.Proofs.Passes

/-! Rules can be put in any order that keeps that of those that do not commute. -/
namespace ParcelPricing

/-- A pair has one order at most in a list without duplicates. -/
theorem not_sublist_swap {β : Type} {a b : β} {xs : List β} (hxs : xs.Nodup)
    (h : [a, b].Sublist xs) : ¬ [b, a].Sublist xs := by
  intro h'
  induction hxs with
  | nil => cases h
  | @cons x xs hx _ ih =>
    have hnew : x ∉ xs := fun hmem => hx x hmem rfl
    cases h with
    | cons _ h =>
      cases h' with
      | cons _ h' => exact ih h h'
      | cons_cons _ h' => exact hnew (h.subset (by simp))
    | cons_cons _ h =>
      cases h' with
      | cons _ h' => exact hnew (h'.subset (by simp))
      | cons_cons _ h' => exact hnew (h'.subset (by simp))

/-- What does not hold `a` is found without it. -/
theorem sublist_append_of_not_mem {β : Type} {a : β} {xs front back : List β} (ha : a ∉ xs)
    (h : xs.Sublist (front ++ a :: back)) : xs.Sublist (front ++ back) := by
  obtain ⟨ys, zs, rfl, hys, hzs⟩ := List.sublist_append_iff.1 h
  refine hys.append ?_
  cases hzs with
  | cons _ hzs => exact hzs
  | cons_cons _ hzs => exact absurd (List.mem_append_right ys List.mem_cons_self) ha

variable {α : Type} [Amount α] {t : Terms α} {l : Ledger α} {s : Shipment α}
  {rules others front : List (Rule α)} {a b : Rule α}

/-- Rules that every shipment can go through in either order, on any books. -/
def Rule.Commutes (a b : Rule α) : Prop :=
  ∀ t l s, applyRules t [a, b] l s = applyRules t [b, a] l s

/-- Engines that give the same results and leave the same books, for every input. -/
def Engine.Agrees (e e' : Engine α) : Prop :=
  ∀ xs, (e.run xs).1 = (e'.run xs).1 ∧ (e.run xs).2.ledger = (e'.run xs).2.ledger

theorem Engine.agrees_of_applyRules
    (h : ∀ t l s, applyRules t rules l s = applyRules t others l s) (t : Terms α) (l : Ledger α) :
    Agrees ⟨rules, t, l⟩ ⟨others, t, l⟩ := by
  intro xs
  have hout := congrArg Prod.fst (runRules_congr h t l xs)
  have hbooks := congrArg (·.2.1) (runRules_congr h t l xs)
  exact ⟨hout, hbooks⟩

/-- A rule that commutes with all rules before it can come first. -/
theorem applyRules_front (h : ∀ b ∈ front, a.Commutes b) (back : List (Rule α)) :
    applyRules t (front ++ a :: back) l s = applyRules t (a :: (front ++ back)) l s := by
  induction front generalizing t l s with
  | nil => rfl
  | cons b front ih =>
    have hswap := h b List.mem_cons_self t l s
    simp only [applyRules_cons, applyRules_nil] at hswap
    rw [List.cons_append, applyRules_cons, ih fun c hc => h c (List.mem_cons_of_mem _ hc)]
    simp only [applyRules_cons, List.cons_append]
    rw [Prod.ext_iff] at hswap
    rw [hswap.1, hswap.2]

/-- Rules can be put in any order that keeps the order of those that do not commute. -/
theorem applyRules_perm (hnodup : rules.Nodup) (hperm : rules.Perm others)
    (h : rules.Pairwise fun a b => a.Commutes b ∨ [a, b].Sublist others) (t : Terms α)
    (l : Ledger α) (s : Shipment α) : applyRules t rules l s = applyRules t others l s := by
  induction rules generalizing others t l s with
  | nil => rw [hperm.nil_eq]
  | cons a rest ih =>
    obtain ⟨front, back, rfl⟩ := List.append_of_mem (hperm.mem_iff.1 List.mem_cons_self)
    have hrest : rest.Perm (front ++ back) := (hperm.trans List.perm_middle).cons_inv
    obtain ⟨hnew, hnodup'⟩ := List.nodup_cons.1 hnodup
    obtain ⟨hfirst, hpairs⟩ := List.pairwise_cons.1 h
    -- What now stands before `a` came after it, so it commutes with `a`.
    have hfront : ∀ b ∈ front, a.Commutes b := by
      intro b hb
      have hlate : [b, a].Sublist (front ++ a :: back) :=
        (List.singleton_sublist.2 hb).append (List.singleton_sublist.2 List.mem_cons_self)
      refine (hfirst b (hrest.mem_iff.2 (List.mem_append_left _ hb))).resolve_right ?_
      exact not_sublist_swap (hperm.nodup hnodup) hlate
    rw [applyRules_front hfront, applyRules_cons, applyRules_cons]
    refine ih hnodup' hrest (hpairs.imp_of_mem fun {x y} hx hy hxy => ?_) _ _ _
    refine hxy.imp_right (sublist_append_of_not_mem ?_)
    simp only [List.mem_cons, List.not_mem_nil, or_false]
    rintro (rfl | rfl)
    · exact hnew hx
    · exact hnew hy

namespace Rule

/-- No standard rule looks at whether a shipment was set aside. -/
theorem ignoreUnreadable_commutes (id : Nat) {r : Rule α} (hr : r.IsStandard) :
    (ignoreUnreadable id).Commutes r := by
  intro t l s
  cases hr with
  | ignoreUnreadable id' =>
    simp only [applyRules_cons, applyRules_nil, apply_ignoreUnreadable]
  | lowestSmallPrice id' =>
    simp only [applyRules_cons, applyRules_nil, apply_ignoreUnreadable, apply_lowestSmallPrice]
    rfl
  | countLarge id' =>
    simp only [applyRules_cons, applyRules_nil, apply_ignoreUnreadable, apply_countLarge]
    rfl
  | thirdLargeFree id' =>
    simp only [applyRules_cons, applyRules_nil, apply_ignoreUnreadable, apply_thirdLargeFree]
    rfl
  | applyPrice id' =>
    have hbase : t.base? { s with ignored := s.ignored || !t.reads s } = t.base? s := rfl
    simp only [applyRules_cons, applyRules_nil, apply_ignoreUnreadable, apply_applyPrice, hbase]
    cases t.base? s with
    | none => rfl
    | some base => rfl

theorem lowestSmallPrice_commutes_countLarge (id id' : Nat) :
    (lowestSmallPrice id : Rule α).Commutes (countLarge id') := by
  intro t l s
  simp only [applyRules_cons, applyRules_nil, apply_lowestSmallPrice, apply_countLarge]
  rfl

/-- No shipment is both small and large. -/
theorem lowestSmallPrice_commutes_thirdLargeFree (id id' : Nat) :
    (lowestSmallPrice id : Rule α).Commutes (thirdLargeFree id') := by
  intro t l s
  simp only [applyRules_cons, applyRules_nil, apply_lowestSmallPrice, apply_thirdLargeFree]
  by_cases hs : s.IsLargeLaPoste
  · have hsmall : ∀ proposed, t.smallProposal { s with proposed } = proposed := by
      simp [Terms.smallProposal, hs.2]
    simp only [hsmall]
  · have hlarge : ∀ large proposed, freeProposal t large { s with proposed } = proposed :=
      fun large proposed => if_neg fun h => hs h.1
    simp only [hlarge]

/-- The pricing leaves alone what a month has counted, and the count what it has granted. -/
theorem countLarge_commutes_applyPrice (id id' : Nat) :
    (countLarge id : Rule α).Commutes (applyPrice id') := by
  intro t l s
  simp only [applyRules_cons, applyRules_nil, apply_countLarge, apply_applyPrice]
  cases t.base? s with
  | none => rfl
  | some base =>
    exact Prod.ext (priced_counted base s) (Prod.ext (counted_priced base s).symm rfl)

theorem nodup_standard (first : Nat) : (standard first : List (Rule α)).Nodup := by
  have hids : ((standard first : List (Rule α)).map Rule.id).Nodup := by
    simp [standard, ignoreUnreadable, lowestSmallPrice, countLarge, thirdLargeFree, applyPrice]
  exact List.Pairwise.of_map Rule.id (fun _ _ hids heq => hids (congrArg Rule.id heq)) hids

/-- Any order of the standard rules does that keeps the order of these three pairs. -/
theorem applyRules_standard_perm {first : Nat} (hperm : rules.Perm (standard first))
    (hcount : [countLarge (first + 2), thirdLargeFree (first + 3)].Sublist rules)
    (hsmall : [lowestSmallPrice (first + 1), applyPrice (first + 4)].Sublist rules)
    (hfree : [thirdLargeFree (first + 3), applyPrice (first + 4)].Sublist rules) (t : Terms α)
    (l : Ledger α) (s : Shipment α) : applyRules t rules l s = applyRules t (standard first) l s := by
  refine (applyRules_perm (nodup_standard first) hperm.symm ?_ t l s).symm
  have hignore : ∀ {r : Rule α}, r.IsStandard →
      (ignoreUnreadable first).Commutes r ∨ [ignoreUnreadable first, r].Sublist rules :=
    fun hr => Or.inl (ignoreUnreadable_commutes first hr)
  simp only [standard, List.pairwise_cons, List.forall_mem_cons, List.not_mem_nil, false_implies,
    implies_true, List.Pairwise.nil, and_true]
  refine ⟨⟨?_, ?_, ?_, ?_⟩, ⟨?_, ?_, ?_⟩, ⟨?_, ?_⟩, ?_⟩
  · exact hignore (.lowestSmallPrice _)
  · exact hignore (.countLarge _)
  · exact hignore (.thirdLargeFree _)
  · exact hignore (.applyPrice _)
  · exact Or.inl (lowestSmallPrice_commutes_countLarge _ _)
  · exact Or.inl (lowestSmallPrice_commutes_thirdLargeFree _ _)
  · exact Or.inr hsmall
  · exact Or.inr hcount
  · exact Or.inl (countLarge_commutes_applyPrice _ _)
  · exact Or.inr hfree

end Rule

open Rule

/-- Every order with the count before the free shipment and both proposals before the pricing does
the same as the usual one, wherever shipments are set aside. -/
theorem safe_orders (first other : Nat) (t : Terms α) (l : Ledger α) :
    (∀ rules : List (Rule α), rules.Perm (standard other) →
      [countLarge (other + 2), thirdLargeFree (other + 3)].Sublist rules →
      [lowestSmallPrice (other + 1), applyPrice (other + 4)].Sublist rules →
      [thirdLargeFree (other + 3), applyPrice (other + 4)].Sublist rules →
      Engine.Agrees ⟨rules, t, l⟩ ⟨standard first, t, l⟩) ∧
    ∀ front back : List (Rule α), front ++ back = [lowestSmallPrice (other + 1),
        countLarge (other + 2), thirdLargeFree (other + 3), applyPrice (other + 4)] →
      Engine.Agrees ⟨front ++ ignoreUnreadable other :: back, t, l⟩ ⟨standard first, t, l⟩ := by
  have hstandard : ∀ (t : Terms α) l s,
      applyRules t (standard other) l s = applyRules t (standard first) l s :=
    fun t l s => by rw [applyRules_standard, applyRules_standard]
  constructor
  · intro rules hperm hcount hsmall hfree
    refine Engine.agrees_of_applyRules (fun t l s => ?_) t l
    rw [applyRules_standard_perm hperm hcount hsmall hfree, hstandard]
  · intro front back hothers
    have hperm : (front ++ ignoreUnreadable other :: back).Perm (standard other) := by
      refine List.perm_middle.trans ?_
      rw [hothers]
      exact List.Perm.refl _
    -- A pair in order among the four others is in order with the rule between them.
    have hpair : ∀ {a b : Rule α}, [a, b].Sublist [lowestSmallPrice (other + 1),
          countLarge (other + 2), thirdLargeFree (other + 3), applyPrice (other + 4)] →
        [a, b].Sublist (front ++ ignoreUnreadable other :: back) := by
      intro a b h
      rw [← hothers] at h
      exact h.trans ((List.Sublist.refl front).append (List.sublist_cons_self _ _))
    refine Engine.agrees_of_applyRules (fun t l s => ?_) t l
    rw [applyRules_standard_perm hperm (hpair (by simp)) (hpair (by simp)) (hpair (by simp)),
      hstandard]

/-- The count first of all and the shipments set aside at the end. -/
theorem safe_orders_of_count_first :
    let t : Terms Float := ⟨PriceTable.empty.insert .laPoste .large 6.9, 10, .ofKeys [.laPoste],
      .ofKeys [.large]⟩
    let rules : List (Rule Float) :=
      [countLarge 2, lowestSmallPrice 1, thirdLargeFree 3, applyPrice 4, ignoreUnreadable 0]
    Engine.Agrees ⟨rules, t, .empty⟩ ⟨standard 0, t, .empty⟩ := by
  intro t rules
  have hperm : rules.Perm (standard 0) :=
    (List.perm_append_singleton (ignoreUnreadable 0)
      [countLarge 2, lowestSmallPrice 1, thirdLargeFree 3, applyPrice 4]).trans
        (.cons _ (.swap ..))
  exact (safe_orders 0 0 t .empty).1 rules hperm (by simp [rules]) (by simp [rules])
    (by simp [rules])

end ParcelPricing
