import ParcelPricing.Amount.Double
import ParcelPricing.Pricing.Standard
import ParcelPricing.Proofs.Run

/-! The rules of one identity and those of others go their own ways. -/
namespace ParcelPricing.Engine

variable {α : Type}

/-- A change to the list of rules. -/
inductive Edit (α : Type) where
  | add (rule : Rule α)
  | remove (rule : Rule α)

namespace Edit

def rule : Edit α → Rule α
  | add rule | remove rule => rule

def perform (e : Engine α) : Edit α → Engine α
  | add rule => e.add rule
  | remove rule => (e.remove rule).2

def IsRemoval : Edit α → Prop
  | add _ => False
  | remove _ => True

end Edit

/-- The engine after some edits. -/
def edited (e : Engine α) (edits : List (Edit α)) : Engine α := edits.foldl Edit.perform e

/-- No rule of this identity is in the list. -/
def Lacks (e : Engine α) (r : Rule α) : Prop := ∀ rule ∈ e.rules, rule.id ≠ r.id

/-- How many rules of this identity are in the list. -/
def occurrences (e : Engine α) (r : Rule α) : Nat := e.rules.countP (·.id = r.id)

/-- The engine built from the list without the rules of this identity. -/
def without (e : Engine α) (r : Rule α) : Engine α :=
  ⟨e.rules.filter (·.id ≠ r.id), e.terms, e.ledger⟩

/-- The edits of other identities. -/
def others (r : Rule α) (edits : List (Edit α)) : List (Edit α) := edits.filter (·.rule.id ≠ r.id)

variable {e : Engine α} {r other found : Rule α} {front back : List (Rule α)} {edit : Edit α}
  {edits : List (Edit α)}

theorem remove_of_lacks (h : e.Lacks r) : e.remove r = (false, e) := by
  have hany : e.rules.any (·.id == r.id) = false := by simpa [Lacks] using h
  have herase : e.rules.eraseP (·.id == r.id) = e.rules :=
    List.eraseP_of_forall_not (by simpa [Lacks] using h)
  rw [remove, hany, herase]

/-- The first rule of an identity is the one that goes. -/
theorem remove_of_first (hrules : e.rules = front ++ found :: back)
    (hfront : ∀ rule ∈ front, rule.id ≠ r.id) (hfound : found.id = r.id) :
    e.remove r = (true, ⟨front ++ back, e.terms, e.ledger⟩) := by
  have hany : e.rules.any (·.id == r.id) = true := by simp [hrules, hfound]
  have herase : e.rules.eraseP (·.id == r.id) = front ++ back := by
    rw [hrules, List.eraseP_append_right _ (by simpa using hfront), List.eraseP_cons_of_pos]
    simpa using hfound
  rw [remove, hany, herase]

/-- All that a removal can do. -/
theorem remove_cases (e : Engine α) (r : Rule α) :
    e.Lacks r ∧ e.remove r = (false, e) ∨
      ∃ front found back, e.rules = front ++ found :: back ∧ found.id = r.id ∧
        (∀ rule ∈ front, rule.id ≠ r.id) ∧
        e.remove r = (true, ⟨front ++ back, e.terms, e.ledger⟩) := by
  by_cases h : e.Lacks r
  · exact Or.inl ⟨h, remove_of_lacks h⟩
  · simp only [Lacks, not_forall, not_not] at h
    obtain ⟨rule, hmem, hid⟩ := h
    obtain ⟨found, front, back, hfront, hfound, hrules, -⟩ :=
      List.exists_of_eraseP (p := fun rule => decide (rule.id = r.id)) hmem (by simpa using hid)
    have hfront : ∀ rule ∈ front, rule.id ≠ r.id := by simpa using hfront
    have hfound : found.id = r.id := by simpa using hfound
    exact Or.inr ⟨front, found, back, hrules, hfound, hfront, remove_of_first hrules hfront hfound⟩

theorem lacks_iff : e.Lacks r ↔ e.occurrences r = 0 := by
  simp [Lacks, occurrences, List.countP_eq_zero]

theorem without_of_lacks (h : e.Lacks r) : e.without r = e := by
  have hrules : e.rules.filter (·.id ≠ r.id) = e.rules :=
    List.filter_eq_self.2 (by simpa [Lacks] using h)
  rw [without, hrules]

theorem lacks_without (h : e.Lacks other) : (e.without r).Lacks other :=
  fun rule hrule => h rule (List.mem_of_mem_filter hrule)

/-- Edits of one identity do not touch the rules of the others. -/
theorem without_perform_of_eq (edit : Edit α) (h : edit.rule.id = r.id) :
    (edit.perform e).without r = e.without r := by
  cases edit with
  | add other =>
    have hother : other.id = r.id := h
    simp [Edit.perform, add, without, hother]
  | remove other =>
    have hother : other.id = r.id := h
    rw [Edit.perform]
    rcases e.remove_cases other with ⟨-, heq⟩ | ⟨front, found, back, hrules, hfound, -, heq⟩
    · rw [heq]
    · rw [heq, without, without, hrules]
      simp [hfound, hother]

/-- Edits of the others go on as if the rules of the one identity were not there. -/
theorem without_perform_of_ne (h : edit.rule.id ≠ r.id) :
    (edit.perform e).without r = edit.perform (e.without r) := by
  cases edit with
  | add other =>
    have hother : other.id ≠ r.id := h
    simp [Edit.perform, add, without, hother]
  | remove other =>
    have hother : other.id ≠ r.id := h
    rw [Edit.perform, Edit.perform]
    rcases e.remove_cases other with
      ⟨hlacks, heq⟩ | ⟨front, found, back, hrules, hfound, hfront, heq⟩
    · rw [heq, remove_of_lacks (lacks_without hlacks)]
    · have hkept : (e.without r).rules =
          front.filter (·.id ≠ r.id) ++ found :: back.filter (·.id ≠ r.id) := by
        simp [without, hrules, hfound, hother]
      rw [heq, remove_of_first hkept
        (fun rule hrule => hfront rule (List.mem_of_mem_filter hrule)) hfound, without,
        List.filter_append]
      rfl

theorem without_edited (edits : List (Edit α)) :
    (e.edited edits).without r = (e.without r).edited (others r edits) := by
  induction edits generalizing e with
  | nil => rfl
  | cons edit edits ih =>
    have hstep : (e.edited (edit :: edits)).without r =
        ((edit.perform e).without r).edited (others r edits) := ih
    rw [hstep]
    by_cases h : edit.rule.id = r.id
    · have hothers : others r (edit :: edits) = others r edits :=
        List.filter_cons_of_neg (by simpa using h)
      rw [without_perform_of_eq edit h, hothers]
    · have hothers : others r (edit :: edits) = edit :: others r edits :=
        List.filter_cons_of_pos (by simpa using h)
      rw [without_perform_of_ne h, hothers]
      rfl

theorem occurrences_perform_of_ne (h : edit.rule.id ≠ r.id) :
    (edit.perform e).occurrences r = e.occurrences r := by
  cases edit with
  | add other =>
    have hother : other.id ≠ r.id := h
    simp [Edit.perform, occurrences, add, hother]
  | remove other =>
    have hother : other.id ≠ r.id := h
    rw [Edit.perform]
    rcases e.remove_cases other with ⟨-, heq⟩ | ⟨front, found, back, hrules, hfound, -, heq⟩
    · rw [heq]
    · rw [heq, occurrences, occurrences, hrules]
      simp [hfound, hother]

theorem occurrences_add (h : other.id = r.id) :
    (e.add other).occurrences r = e.occurrences r + 1 := by
  simp [occurrences, add, h]

theorem occurrences_remove (h : other.id = r.id) :
    (e.remove other).2.occurrences r = e.occurrences r - 1 := by
  rcases e.remove_cases other with ⟨hlacks, heq⟩ | ⟨front, found, back, hrules, hfound, -, heq⟩
  · have hnone : e.occurrences r = 0 := by
      rw [← lacks_iff, Lacks, ← h]
      exact hlacks
    rw [heq, hnone]
  · rw [heq, occurrences, occurrences, hrules]
    simp [hfound, h, ← Nat.add_assoc]

/-- Where rules of an identity are only removed, each removal takes one away, while there are any. -/
theorem occurrences_edited (h : ∀ edit ∈ edits, edit.rule.id = r.id → edit.IsRemoval) :
    (e.edited edits).occurrences r =
      e.occurrences r - edits.countP (·.rule.id = r.id) := by
  induction edits generalizing e with
  | nil => rfl
  | cons edit edits ih =>
    obtain ⟨hedit, hedits⟩ := List.forall_mem_cons.1 h
    have hstep : (e.edited (edit :: edits)).occurrences r =
        (edit.perform e).occurrences r - edits.countP (·.rule.id = r.id) := ih hedits
    rw [hstep]
    by_cases hid : edit.rule.id = r.id
    · rw [List.countP_cons_of_pos (by simpa using hid)]
      cases edit with
      | add other => exact (hedit hid).elim
      | remove other =>
        have hone : (e.remove other).2.occurrences r = e.occurrences r - 1 := occurrences_remove hid
        rw [Edit.perform, hone]
        omega
    · rw [List.countP_cons_of_neg (by simpa using hid), occurrences_perform_of_ne hid]

theorem others_of_forall_ne (h : ∀ edit ∈ edits, edit.rule.id ≠ r.id) : others r edits = edits :=
  List.filter_eq_self.2 (by simpa using h)

theorem remove_fst_iff : (e.remove r).1 = true ↔ ∃ rule ∈ e.rules, rule.id = r.id := by
  simp [remove]

/-- A rule that is not in the list is gone again when it was added and removed, whatever edits of others
came between. -/
theorem remove_edited_add (hlacks : e.Lacks r) (h : ∀ edit ∈ edits, edit.rule.id ≠ r.id) :
    ((e.add r).edited edits).remove r = (true, e.edited edits) := by
  have hone : ((e.add r).edited edits).occurrences r = 1 := by
    rw [occurrences_edited fun edit hedit hid => absurd hid (h edit hedit), occurrences_add rfl,
      lacks_iff.1 hlacks, List.countP_eq_zero.2 (by simpa using h)]
  have hgone : (((e.add r).edited edits).remove r).2.Lacks r := by
    rw [lacks_iff, occurrences_remove rfl, hone]
  have hleft : (((e.add r).edited edits).remove r).2 = e.edited edits := by
    calc (((e.add r).edited edits).remove r).2
      _ = (((e.add r).edited edits).remove r).2.without r := (without_of_lacks hgone).symm
      _ = ((e.add r).edited edits).without r := without_perform_of_eq (.remove r) rfl
      _ = ((e.add r).without r).edited (others r edits) := without_edited edits
      _ = (e.without r).edited edits := by
        rw [others_of_forall_ne h]
        exact congrArg (edited · edits) (without_perform_of_eq (.add r) rfl)
      _ = e.edited edits := by rw [without_of_lacks hlacks]
  rcases ((e.add r).edited edits).remove_cases r with ⟨hnone, -⟩ | ⟨_, _, _, -, -, -, heq⟩
  · rw [lacks_iff, hone] at hnone
    cases hnone
  · rw [← hleft, heq]

/-- Once all rules of an identity are removed, they might as well never have been there. -/
theorem edited_of_all_removed (h : ∀ edit ∈ edits, edit.rule.id = r.id → edit.IsRemoval)
    (hall : edits.countP (·.rule.id = r.id) = e.occurrences r) :
    e.edited edits = (e.without r).edited (others r edits) := by
  have hgone : (e.edited edits).Lacks r := by
    rw [lacks_iff, occurrences_edited h, hall, Nat.sub_self]
  rw [← without_edited, without_of_lacks hgone]

theorem ledger_edited (edits : List (Edit α)) :
    (e.edited edits).ledger = e.ledger ∧ (e.edited edits).terms = e.terms := by
  induction edits generalizing e with
  | nil => exact ⟨rfl, rfl⟩
  | cons edit edits ih =>
    obtain ⟨hledger, hterms⟩ := ih (e := edit.perform e)
    cases edit with
    | add => exact ⟨hledger, hterms⟩
    | remove => exact ⟨hledger, hterms⟩

/-- A removal takes away the first rule of its identity or changes nothing. Edits of one identity
leave no trace on the rules of the others, and no edit changes the books or the terms. -/
theorem edits_by_identity [Amount α] (start : Engine α) (made : List (Edit α)) (r : Rule α) :
    let e := start.edited made
    ((e.remove r).1 = true ↔ ∃ rule ∈ e.rules, rule.id = r.id) ∧
      (e.Lacks r ∧ e.remove r = (false, e) ∨
        ∃ front found back, e.rules = front ++ found :: back ∧ found.id = r.id ∧
          (∀ rule ∈ front, rule.id ≠ r.id) ∧
          e.remove r = (true, ⟨front ++ back, e.terms, e.ledger⟩)) ∧
      (∀ edits : List (Edit α), e.Lacks r → (∀ edit ∈ edits, edit.rule.id ≠ r.id) →
        ((e.add r).edited edits).remove r = (true, e.edited edits)) ∧
      (∀ (edits : List (Edit α)) (xs : List (Shipment α)),
        (∀ edit ∈ edits, edit.rule.id = r.id → edit.IsRemoval) →
          edits.countP (·.rule.id = r.id) = e.occurrences r →
            (e.edited edits).run xs = ((e.without r).edited (others r edits)).run xs) ∧
      (∀ xs : List (Shipment α),
        (e.edited (List.replicate (e.occurrences r) (.remove r))).run xs = (e.without r).run xs) ∧
      e.ledger = start.ledger ∧ e.terms = start.terms := by
  intro e
  refine ⟨remove_fst_iff, e.remove_cases r, fun edits hlacks h => remove_edited_add hlacks h,
    fun edits xs h hall => by rw [edited_of_all_removed h hall], fun xs => ?_, ledger_edited made⟩
  have hremovals : ∀ edit ∈ List.replicate (e.occurrences r) (Edit.remove r), edit = .remove r :=
    fun edit hedit => List.eq_of_mem_replicate hedit
  have hothers : others r (List.replicate (e.occurrences r) (Edit.remove r)) = [] :=
    List.filter_eq_nil_iff.2 fun edit hedit => by simp [hremovals edit hedit, Edit.rule]
  rw [edited_of_all_removed, hothers]
  · rfl
  · rintro edit hedit -
    rw [hremovals edit hedit]
    trivial
  · simp [List.countP_replicate, Edit.rule]

/-- A rule in the list twice beside one that says the same, which stays when both are removed; and
the pricing, not in the list, comes and goes. -/
theorem edits_by_identity_of_twins :
    let count : Rule Float := .countLarge 1
    let twin : Rule Float := .countLarge 2
    let price : Rule Float := .applyPrice 3
    let start : Engine Float := ⟨[count, price, count],
      ⟨PriceTable.empty.insert .laPoste .large 6.9, 10, .ofKeys [.laPoste], .ofKeys [.large]⟩,
      .empty⟩
    let e := start.edited [.add twin, .remove price]
    (e.Lacks price ∧ ((e.add price).edited [.remove count, .add twin]).remove price =
        (true, e.edited [.remove count, .add twin])) ∧
      e.occurrences count = 2 ∧ (e.without count).rules = [twin] ∧
      ∀ xs, (e.edited [.remove count, .add price, .remove count]).run xs =
        ((e.without count).edited [.add price]).run xs := by
  intro count twin price start e
  obtain ⟨-, -, hback, -⟩ := edits_by_identity start [.add twin, .remove price] price
  obtain ⟨-, -, -, hgone, -⟩ := edits_by_identity start [.add twin, .remove price] count
  have hlacks : e.Lacks price := lacks_iff.2 rfl
  refine ⟨⟨hlacks, hback _ hlacks ?_⟩, rfl, rfl, fun xs => hgone _ xs ?_ rfl⟩
  · simp [Edit.rule, count, twin, price, Rule.countLarge, Rule.applyPrice]
  · simp [Edit.rule, Edit.IsRemoval, count, price, Rule.countLarge, Rule.applyPrice]

end ParcelPricing.Engine
