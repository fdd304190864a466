import Mathlib.Data.List.Forall2
import ParcelPricing.Pricing.Engine

/-! Runs of any list of rules. What every step keeps, a whole run keeps. -/
namespace ParcelPricing

/-- One rule of a run given its turn, with the books before and after it. -/
structure Step (α : Type) where
  rule : Rule α
  shipment : Shipment α
  before : Ledger α
  after : Ledger α

/-- Every step starts from the books that the one before it left. -/
inductive Trail {α : Type} : Ledger α → List (Step α) → Ledger α → Prop
  | stop {l : Ledger α} : Trail l [] l
  | go {st : Step α} {steps : List (Step α)} {m : Ledger α} :
      Trail st.after steps m → Trail st.before (st :: steps) m

namespace Trail
variable {α : Type} {l m k : Ledger α} {steps : List (Step α)}

theorem append {others : List (Step α)} (h : Trail l steps m) (h' : Trail m others k) :
    Trail l (steps ++ others) k := by
  induction h with
  | stop => exact h'
  | go _ ih => exact .go (ih h')

/-- A property of the books that every step keeps holds at each point of the trail. -/
theorem invariant {P : Ledger α → Prop} (h : Trail l steps m)
    (hs : ∀ st ∈ steps, P st.before → P st.after) (hl : P l) :
    ∀ b ∈ l :: steps.map Step.after, P b := by
  induction h with
  | stop => simpa using hl
  | @go st steps m _ ih =>
    have hst := hs st List.mem_cons_self hl
    intro b hb
    rcases List.mem_cons.1 hb with rfl | hb
    · exact hl
    · exact ih (fun st' h' => hs st' (List.mem_cons_of_mem _ h')) hst b hb

/-- A transitive relation between the books around each step relates any two points of the trail. -/
theorem pairwise {R : Ledger α → Ledger α → Prop} (hR : ∀ {a b c}, R a b → R b c → R a c)
    (h : Trail l steps m) (hs : ∀ st ∈ steps, R st.before st.after) :
    (l :: steps.map Step.after).Pairwise R := by
  induction h with
  | stop => exact List.pairwise_singleton ..
  | @go st steps m _ ih =>
    have hst := hs st List.mem_cons_self
    have hrest := ih fun st' h' => hs st' (List.mem_cons_of_mem _ h')
    refine List.pairwise_cons.2 ⟨fun b hb => ?_, hrest⟩
    rcases List.mem_cons.1 hb with rfl | hb
    · exact hst
    · exact hR hst ((List.pairwise_cons.1 hrest).1 b hb)

theorem getLast (h : Trail l steps m) : (l :: steps.map Step.after).getLast? = some m := by
  induction h with
  | stop => rfl
  | go _ ih => exact (List.getLast?_cons_cons ..).trans ih

end Trail

variable {α : Type} [Amount α] {t : Terms α} {l : Ledger α} {s : Shipment α} {st : Step α}
  {rules : List (Rule α)} {xs : List (Shipment α)}

@[simp] theorem applyRules_nil : applyRules t [] l s = (s, l, t) := rfl

theorem applyRules_cons (r : Rule α) : applyRules t (r :: rules) l s =
    applyRules (r.apply t l s).2.2 rules (r.apply t l s).2.1 (r.apply t l s).1 := rfl

theorem applyRules_append (front rest : List (Rule α)) : applyRules t (front ++ rest) l s =
    applyRules (applyRules t front l s).2.2 rest (applyRules t front l s).2.1
      (applyRules t front l s).1 := by
  induction front generalizing t l s with
  | nil => rfl
  | cons r front ih => rw [List.cons_append, applyRules_cons, applyRules_cons, ih]

@[simp] theorem runRules_nil : runRules t rules l [] = ([], l, t) := rfl

theorem runRules_cons : runRules t rules l (s :: xs) =
    ((applyRules t rules l s).1 ::
        (runRules (applyRules t rules l s).2.2 rules (applyRules t rules l s).2.1 xs).1,
      (runRules (applyRules t rules l s).2.2 rules (applyRules t rules l s).2.1 xs).2) := rfl

/-- The later shipments meet the earlier ones in the books and the terms alone. -/
theorem runRules_append (xs ys : List (Shipment α)) : runRules t rules l (xs ++ ys) =
    ((runRules t rules l xs).1 ++
        (runRules (runRules t rules l xs).2.2 rules (runRules t rules l xs).2.1 ys).1,
      (runRules (runRules t rules l xs).2.2 rules (runRules t rules l xs).2.1 ys).2) := by
  induction xs generalizing t l with
  | nil => rfl
  | cons s xs ih =>
    rw [List.cons_append, runRules_cons, runRules_cons, ih]
    rfl

/-- Lists of rules that do the same to every shipment do the same to every input. -/
theorem runRules_congr {others : List (Rule α)}
    (h : ∀ t l s, applyRules t rules l s = applyRules t others l s) (t : Terms α) (l : Ledger α)
    (xs : List (Shipment α)) : runRules t rules l xs = runRules t others l xs := by
  induction xs generalizing t l with
  | nil => rfl
  | cons s xs ih => rw [runRules_cons, runRules_cons, h, ih]

theorem length_runRules (t : Terms α) (rules : List (Rule α)) (l : Ledger α)
    (xs : List (Shipment α)) : (runRules t rules l xs).1.length = xs.length := by
  induction xs generalizing t l with
  | nil => rfl
  | cons s xs ih => simp [runRules_cons, ih]

/-- Rules that leave the terms as they are. -/
def KeepTerms (rules : List (Rule α)) : Prop := ∀ r ∈ rules, ∀ t l s, (r.apply t l s).2.2 = t

namespace KeepTerms

theorem terms_applyRules (h : KeepTerms rules) (t : Terms α) (l : Ledger α) (s : Shipment α) :
    (applyRules t rules l s).2.2 = t := by
  induction rules generalizing l s with
  | nil => rfl
  | cons r rules ih =>
    obtain ⟨hr, hrules⟩ := List.forall_mem_cons.1 h
    rw [applyRules_cons, hr]
    exact ih hrules _ _

theorem run_cons (h : KeepTerms rules) : runRules t rules l (s :: xs) =
    ((applyRules t rules l s).1 :: (runRules t rules (applyRules t rules l s).2.1 xs).1,
      (runRules t rules (applyRules t rules l s).2.1 xs).2) := by
  rw [runRules_cons, h.terms_applyRules]

theorem terms_run (h : KeepTerms rules) (t : Terms α) (l : Ledger α) (xs : List (Shipment α)) :
    (runRules t rules l xs).2.2 = t := by
  induction xs generalizing l with
  | nil => rfl
  | cons s xs ih =>
    rw [h.run_cons]
    exact ih _

theorem run_append (h : KeepTerms rules) (xs ys : List (Shipment α)) :
    runRules t rules l (xs ++ ys) =
      ((runRules t rules l xs).1 ++ (runRules t rules (runRules t rules l xs).2.1 ys).1,
        (runRules t rules (runRules t rules l xs).2.1 ys).2) := by
  rw [runRules_append, h.terms_run]

/-- Each shipment of a run is related to its result if a single one is, whatever the books. -/
theorem forall₂_run (hkeep : KeepTerms rules) {R : Shipment α → Shipment α → Prop}
    (h : ∀ l s, R s (applyRules t rules l s).1) (l : Ledger α) (xs : List (Shipment α)) :
    List.Forall₂ R xs (runRules t rules l xs).1 := by
  induction xs generalizing l with
  | nil => exact .nil
  | cons s xs ih =>
    rw [hkeep.run_cons]
    exact .cons (h l s) (ih _)

/-- Each shipment of a run is related to its result if a single one is on books of a kind that it
leaves as such. -/
theorem forall₂_run_of_invariant (hkeep : KeepTerms rules) {P : Ledger α → Prop}
    {R : Shipment α → Shipment α → Prop}
    (h : ∀ s ∈ xs, ∀ l, P l →
      R s (applyRules t rules l s).1 ∧ P (applyRules t rules l s).2.1) (hl : P l) :
    List.Forall₂ R xs (runRules t rules l xs).1 := by
  induction xs generalizing l with
  | nil => exact .nil
  | cons s xs ih =>
    obtain ⟨hout, hbooks⟩ := h s List.mem_cons_self l hl
    rw [hkeep.run_cons]
    exact .cons hout (ih (fun s' hs' => h s' (List.mem_cons_of_mem _ hs')) hbooks)

/-- What no turn of the rules changes of a shipment, a run does not change. -/
theorem map_run (hkeep : KeepTerms rules) {β : Type} {f : Shipment α → β}
    (h : ∀ l s, f (applyRules t rules l s).1 = f s) (l : Ledger α) (xs : List (Shipment α)) :
    (runRules t rules l xs).1.map f = xs.map f := by
  induction xs generalizing l with
  | nil => rfl
  | cons s xs ih => rw [hkeep.run_cons, List.map_cons, List.map_cons, h, ih]

theorem getElem?_run (hkeep : KeepTerms rules) (before after : List (Shipment α)) :
    (runRules t rules l (before ++ s :: after)).1[before.length]? =
      some (applyRules t rules (runRules t rules l before).2.1 s).1 := by
  have hlen := length_runRules t rules l before
  rw [hkeep.run_append, hkeep.run_cons]
  simp [← hlen]

/-- Two runs side by side, the second over some of the shipments alone. If these keep the books
related, and the others do too, the shared shipments have the same results. -/
theorem run_filter_of_related (hkeep : KeepTerms rules) {R : Ledger α → Ledger α → Prop}
    {P : Shipment α → Bool}
    (hshared : ∀ {l m s}, P s = true → R l m →
      (applyRules t rules l s).1 = (applyRules t rules m s).1 ∧
        R (applyRules t rules l s).2.1 (applyRules t rules m s).2.1)
    (hother : ∀ {l m s}, ¬ P s = true → R l m → R (applyRules t rules l s).2.1 m)
    {l m : Ledger α} (h : R l m) (xs : List (Shipment α)) :
    (xs.zip (runRules t rules l xs).1).filter (P ·.1) =
        (xs.filter P).zip (runRules t rules m (xs.filter P)).1 ∧
      R (runRules t rules l xs).2.1 (runRules t rules m (xs.filter P)).2.1 := by
  induction xs generalizing l m with
  | nil => exact ⟨rfl, h⟩
  | cons s xs ih =>
    rw [hkeep.run_cons, List.zip_cons_cons]
    by_cases hs : P s = true
    · obtain ⟨hout, hbooks⟩ := hshared hs h
      obtain ⟨hrest, hlast⟩ := ih hbooks
      rw [List.filter_cons_of_pos (by exact hs), List.filter_cons_of_pos hs, hkeep.run_cons,
        List.zip_cons_cons, hrest, hout]
      exact ⟨rfl, hlast⟩
    · rw [List.filter_cons_of_neg (by exact hs), List.filter_cons_of_neg hs]
      exact ih (hother hs h)

/-- A result of a run is that of one shipment, on books that the run came to. -/
theorem mem_run (hkeep : KeepTerms rules) {out : Shipment α}
    (h : out ∈ (runRules t rules l xs).1) :
    ∃ s ∈ xs, ∃ m, out = (applyRules t rules m s).1 := by
  induction xs generalizing l with
  | nil => cases h
  | cons s xs ih =>
    rw [hkeep.run_cons] at h
    rcases List.mem_cons.1 h with rfl | h
    · exact ⟨s, List.mem_cons_self, l, rfl⟩
    · obtain ⟨s', hs', hout⟩ := ih h
      exact ⟨s', List.mem_cons_of_mem _ hs', hout⟩

end KeepTerms

/-- The turns of the rules that one shipment goes through. -/
def stepsThrough (t : Terms α) : List (Rule α) → Ledger α → Shipment α → List (Step α)
  | [], _, _ => []
  | r :: rest, l, s =>
    let (s', l', t') := r.apply t l s
    ⟨r, s, l, l'⟩ :: stepsThrough t' rest l' s'

def stepsOf (t : Terms α) (rules : List (Rule α)) : Ledger α → List (Shipment α) → List (Step α)
  | _, [] => []
  | l, s :: rest =>
    let after := (applyRules t rules l s).2
    stepsThrough t rules l s ++ stepsOf after.2 rules after.1 rest

theorem trail_stepsThrough (t : Terms α) (rules : List (Rule α)) (l : Ledger α) (s : Shipment α) :
    Trail l (stepsThrough t rules l s) (applyRules t rules l s).2.1 := by
  induction rules generalizing t l s with
  | nil => exact .stop
  | cons r rest ih =>
    let st : Step α := ⟨r, s, l, (r.apply t l s).2.1⟩
    have hrest : Trail st.after _ _ := ih (r.apply t l s).2.2 st.after (r.apply t l s).1
    exact Trail.go hrest

theorem trail_stepsOf (t : Terms α) (rules : List (Rule α)) (l : Ledger α)
    (xs : List (Shipment α)) : Trail l (stepsOf t rules l xs) (runRules t rules l xs).2.1 := by
  induction xs generalizing t l with
  | nil => exact .stop
  | cons s xs ih => exact (trail_stepsThrough t rules l s).append (ih _ _)

theorem stepsOf_cons (hkeep : KeepTerms rules) : stepsOf t rules l (s :: xs) =
    stepsThrough t rules l s ++ stepsOf t rules (applyRules t rules l s).2.1 xs := by
  rw [stepsOf, hkeep.terms_applyRules]

theorem stepsThrough_cons (r : Rule α) : stepsThrough t (r :: rules) l s =
    ⟨r, s, l, (r.apply t l s).2.1⟩ ::
      stepsThrough (r.apply t l s).2.2 rules (r.apply t l s).2.1 (r.apply t l s).1 := rfl

theorem mem_stepsThrough (hkeep : KeepTerms rules) (h : st ∈ stepsThrough t rules l s) :
    st.rule ∈ rules ∧ st.after = (st.rule.apply t st.before st.shipment).2.1 := by
  induction rules generalizing l s with
  | nil => cases h
  | cons r rest ih =>
    obtain ⟨hr, hrest⟩ := List.forall_mem_cons.1 hkeep
    rw [stepsThrough_cons, hr] at h
    rcases List.mem_cons.1 h with rfl | h
    · exact ⟨List.mem_cons_self, rfl⟩
    · exact ⟨List.mem_cons_of_mem _ (ih hrest h).1, (ih hrest h).2⟩

theorem mem_stepsOf (hkeep : KeepTerms rules) (h : st ∈ stepsOf t rules l xs) :
    st.rule ∈ rules ∧ st.after = (st.rule.apply t st.before st.shipment).2.1 := by
  induction xs generalizing l with
  | nil => cases h
  | cons s xs ih =>
    rw [stepsOf_cons hkeep] at h
    rcases List.mem_append.1 h with h | h
    · exact mem_stepsThrough hkeep h
    · exact ih h

namespace Engine

def steps (e : Engine α) (xs : List (Shipment α)) : List (Step α) :=
  stepsOf e.terms e.rules e.ledger xs

/-- The books at every point of a run: at its start, and after each turn of a rule. -/
def books (e : Engine α) (xs : List (Shipment α)) : List (Ledger α) :=
  e.ledger :: (e.steps xs).map Step.after

/-- The last of the books are the ones that the run leaves. -/
theorem getLast_books (e : Engine α) (xs : List (Shipment α)) :
    (e.books xs).getLast? = some (e.run xs).2.ledger :=
  (trail_stepsOf e.terms e.rules e.ledger xs).getLast

/-- Each shipment of a run with what became of it. -/
def results (e : Engine α) (xs : List (Shipment α)) : List (Shipment α × Shipment α) :=
  xs.zip (e.run xs).1

end Engine

end ParcelPricing
