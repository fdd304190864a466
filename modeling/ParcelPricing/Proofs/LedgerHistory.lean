import Mathlib.Data.Finset.Card
import ParcelPricing.Amount.Double
import ParcelPricing.Report.Document

/-! The books as their history makes them. -/
namespace ParcelPricing

namespace Period

/-- By year, then by month; the undated period after all months. -/
def Before : Period → Period → Prop
  | month y m, month y' m' => y < y' ∨ y = y' ∧ m < m'
  | month .., undated => True
  | undated, _ => False

theorem before_of_compare {p q : Period} (h : compare p q = .lt) : p.Before q := by
  change order p q = .lt at h
  simp only [order, compareLex, compareOn, Ordering.then_eq_lt, compare_lt_iff_lt,
    compare_eq_iff_eq] at h
  cases p with
  | month y m =>
    cases q with
    | month y' m' => simpa [rank, year, number, Before] using h
    | undated => trivial
  | undated =>
    cases q with
    | month y' m' => simp [rank] at h
    | undated => simp [rank, year, number] at h

end Period

namespace Posting
variable {α : Type}

def large? : Posting α → Option UInt32
  | large count => some count
  | granted _ => none

def granted? : Posting α → Option α
  | large _ => none
  | granted amount => some amount

/-- Of two such postings to one period the later one overwrites the earlier. -/
def SameFigure : Posting α → Posting α → Prop
  | large _, large _ | granted _, granted _ => True
  | _, _ => False

end Posting

namespace MonthEntry
variable {α : Type} [Amount α]

/-- What postings leave, the latest of them first: zero in a figure that none of them is about. -/
def ofPostings (postings : List (Posting α)) : MonthEntry α :=
  ⟨(postings.findSome? Posting.large?).getD 0, (postings.findSome? Posting.granted?).getD 0⟩

theorem ofPostings_cons (x : Posting α) (postings : List (Posting α)) :
    ofPostings (x :: postings) = (ofPostings postings).post x := by
  cases x with
  | large => rfl
  | granted => rfl

end MonthEntry

namespace Ledger

/-- A change to the books. -/
inductive Write (α : Type) where
  | post (period : Period) (posting : Posting α)
  | clear

section
variable {α : Type}

/-- The postings since the books were cleared, from a history with the latest write first. -/
def recent : List (Write α) → List (Period × Posting α)
  | .post p x :: earlier => (p, x) :: recent earlier
  | .clear :: _ | [] => []

/-- The postings since the books were cleared, the latest first. -/
def sinceClear (writes : List (Write α)) : List (Period × Posting α) := recent writes.reverse

/-- Those to one period, the latest first. -/
def postedTo (p : Period) (writes : List (Write α)) : List (Posting α) :=
  ((sinceClear writes).filter (·.1 = p)).map Prod.snd

theorem sinceClear_post (writes : List (Write α)) (p : Period) (x : Posting α) :
    sinceClear (writes ++ [.post p x]) = (p, x) :: sinceClear writes := by
  rw [sinceClear, List.reverse_concat, recent, sinceClear]

theorem sinceClear_clear (writes : List (Write α)) : sinceClear (writes ++ [.clear]) = [] := by
  rw [sinceClear, List.reverse_concat, recent]

theorem postedTo_post (writes : List (Write α)) (p q : Period) (x : Posting α) :
    postedTo p (writes ++ [.post q x]) =
      if q = p then x :: postedTo p writes else postedTo p writes := by
  rw [postedTo, sinceClear_post]
  split
  · rename_i h
    rw [List.filter_cons_of_pos (by simpa using h)]
    rfl
  · rename_i h
    rw [List.filter_cons_of_neg (by simpa using h)]
    rfl

theorem postedTo_ne_nil_iff {p : Period} {writes : List (Write α)} :
    postedTo p writes ≠ [] ↔ p ∈ (sinceClear writes).map Prod.fst := by
  simp [postedTo]

theorem pairwise_before (l : Ledger α) : (l.toList.map Prod.fst).Pairwise Period.Before :=
  List.pairwise_map.2 (l.months.ascending.imp Period.before_of_compare)

variable [Amount α]

def write (l : Ledger α) : Write α → Ledger α
  | .post p x => l.post p x
  | .clear => .empty

/-- The books after some writes, from empty ones on. -/
def ofWrites (writes : List (Write α)) : Ledger α := writes.foldl write .empty

theorem ofWrites_concat (writes : List (Write α)) (w : Write α) :
    ofWrites (writes ++ [w]) = (ofWrites writes).write w :=
  List.foldl_concat ..

theorem entry_of_get? {l : Ledger α} {p : Period} {postings : List (Posting α)}
    (h : l.months.get? p = if postings = [] then none else some (.ofPostings postings)) :
    l.entry p = .ofPostings postings := by
  rw [entry, h]
  split
  · rename_i hnone
    rw [hnone]
    rfl
  · rfl

/-- A period has an entry just if it was posted to, and the entry is what the postings leave. -/
theorem get?_ofWrites (writes : List (Write α)) (p : Period) :
    (ofWrites writes).months.get? p =
      if postedTo p writes = [] then none else some (.ofPostings (postedTo p writes)) := by
  induction writes using List.reverseRecOn generalizing p with
  | nil => rfl
  | append_singleton writes w ih =>
    rw [ofWrites_concat]
    cases w with
    | clear =>
      rw [postedTo, sinceClear_clear]
      rfl
    | post q x =>
      rw [write, get?_post, postedTo_post, ih, entry_of_get? (ih q)]
      by_cases h : p = q
      · subst h
        rw [if_pos rfl, if_pos rfl, if_neg (List.cons_ne_nil _ _), MonthEntry.ofPostings_cons]
      · rw [if_neg h, if_neg (Ne.symm h)]

theorem entry_ofWrites (writes : List (Write α)) (p : Period) :
    (ofWrites writes).entry p = .ofPostings (postedTo p writes) :=
  entry_of_get? (get?_ofWrites writes p)

theorem mem_toList_ofWrites (writes : List (Write α)) (p : Period) (e : MonthEntry α) :
    (p, e) ∈ (ofWrites writes).toList ↔
      postedTo p writes ≠ [] ∧ e = (ofWrites writes).entry p := by
  rw [toList, SortedMap.mem_toList, get?_ofWrites, entry_ofWrites]
  split
  · rename_i hnone
    simp [hnone]
  · rename_i hsome
    simp [hsome, eq_comm]

/-- As many rows as there are periods that were posted to. -/
theorem size_ofWrites (writes : List (Write α)) :
    (ofWrites writes).size = ((sinceClear writes).map Prod.fst).toFinset.card := by
  have hnodup : ((ofWrites writes).toList.map Prod.fst).Nodup := (ofWrites writes).months.nodup_keys
  have hkeys : ((ofWrites writes).toList.map Prod.fst).toFinset =
      ((sinceClear writes).map Prod.fst).toFinset := by
    ext p
    rw [List.mem_toFinset, List.mem_toFinset, ← postedTo_ne_nil_iff]
    constructor
    · intro h
      obtain ⟨⟨_, e⟩, hmem, rfl⟩ := List.mem_map.1 h
      exact ((mem_toList_ofWrites writes _ e).1 hmem).1
    · intro h
      exact List.mem_map.2 ⟨_, (mem_toList_ofWrites writes p _).2 ⟨h, rfl⟩, rfl⟩
  rw [← hkeys, List.toFinset_card_of_nodup hnodup, List.length_map]
  rfl

/-- Postings to different periods, or of different figures, change places. -/
theorem post_comm (l : Ledger α) {p q : Period} {x y : Posting α} (h : p ≠ q ∨ ¬ x.SameFigure y) :
    (l.post p x).post q y = (l.post q y).post p x := by
  by_cases hpq : p = q
  · have hfigures : ¬ x.SameFigure y := h.resolve_left fun hne => hne hpq
    cases x with
    | large n =>
      cases y with
      | large m => exact absurd trivial hfigures
      | granted a => exact (l.post_granted_large q p n a).symm
    | granted a =>
      cases y with
      | large n => exact l.post_granted_large p q n a
      | granted b => exact absurd trivial hfigures
  · refine ext_get? fun r => ?_
    simp only [get?_post, entry_post, if_neg hpq, if_neg (Ne.symm hpq)]
    by_cases hr : r = q
    · rw [if_pos hr, if_neg fun hp => hpq (hp.symm.trans hr), if_pos hr]
    · rw [if_neg hr, if_neg hr]

end

/-- What may be asked of the books. -/
inductive Question where
  | entry (p : Period)
  | rows
  | size
  | isEmpty
  | summary (form : Report.Format)

inductive Answer where
  | entry (e : MonthEntry Float)
  | rows (rows : List (Period × MonthEntry Float))
  | size (n : Nat)
  | isEmpty (b : Bool)
  | summary (text : List Char)

def answer (l : Ledger Float) : Question → Answer
  | .entry p => .entry (l.entry p)
  | .rows => .rows l.toList
  | .size => .size l.size
  | .isEmpty => .isEmpty l.isEmpty
  | .summary form => .summary (Report.renderLedger l form)

/-- The books are written to or asked. -/
inductive Access where
  | write (w : Write Float)
  | ask (question : Question)

/-- The answers that a sequence of accesses is given, and the books that it leaves. -/
def session (l : Ledger Float) : List Access → List Answer × Ledger Float
  | [] => ([], l)
  | .write w :: rest => session (l.write w) rest
  | .ask question :: rest =>
    (l.answer question :: (session l rest).1, (session l rest).2)

/-- The writes of a sequence of accesses. -/
def writesOf (accesses : List Access) : List (Write Float) :=
  accesses.filterMap fun
    | .write w => some w
    | .ask _ => none

theorem session_append (l : Ledger Float) (front back : List Access) :
    session l (front ++ back) =
      ((session l front).1 ++ (session (session l front).2 back).1,
        (session (session l front).2 back).2) := by
  induction front generalizing l with
  | nil => rfl
  | cons access front ih =>
    cases access with
    | write w => exact ih (l.write w)
    | ask question =>
      rw [List.cons_append, session, ih]
      rfl

/-- Questions leave no trace in the books. -/
theorem session_snd (l : Ledger Float) (accesses : List Access) :
    (session l accesses).2 = (writesOf accesses).foldl write l := by
  induction accesses generalizing l with
  | nil => rfl
  | cons access rest ih =>
    cases access with
    | write w => exact ih (l.write w)
    | ask question => exact ih l

theorem session_swap (front back : List Access) {p q : Period} {x y : Posting Float}
    (h : p ≠ q ∨ ¬ x.SameFigure y) (l : Ledger Float) :
    session l (front ++ .write (.post p x) :: .write (.post q y) :: back) =
      session l (front ++ .write (.post q y) :: .write (.post p x) :: back) := by
  rw [session_append, session_append]
  simp only [session, write, post_comm _ h]

/-- Each figure of a period is the one posted last since the books were cleared, or zero; the rows
are the periods posted to since then, in ascending order. -/
theorem last_posting_stands (accesses : List Access) :
    let l := (session .empty accesses).2
    let writes := writesOf accesses
    (∀ p, (l.entry p).large = ((postedTo p writes).findSome? Posting.large?).getD 0 ∧
        (l.entry p).granted = ((postedTo p writes).findSome? Posting.granted?).getD 0.0) ∧
      (l.toList.map Prod.fst).Pairwise Period.Before ∧
      (∀ p e, (p, e) ∈ l.toList ↔ p ∈ (sinceClear writes).map Prod.fst ∧ e = l.entry p) ∧
      l.size = ((sinceClear writes).map Prod.fst).toFinset.card ∧
      (l.isEmpty = true ↔ l.size = 0) ∧
      (∀ question, session .empty (accesses ++ [.ask question]) =
        ((session .empty accesses).1 ++ [l.answer question], l)) ∧
      ∀ (later : List Access) (p q : Period) (x y : Posting Float), p ≠ q ∨ ¬ x.SameFigure y →
        session .empty (accesses ++ .write (.post p x) :: .write (.post q y) :: later) =
          session .empty (accesses ++ .write (.post q y) :: .write (.post p x) :: later) := by
  intro l writes
  have hl : l = ofWrites writes := session_snd .empty accesses
  refine ⟨fun p => ?_, l.pairwise_before, fun p e => ?_, ?_, List.isEmpty_iff_length_eq_zero,
    fun question => session_append .empty accesses [.ask question],
    fun later p q x y h => session_swap accesses later h .empty⟩
  · rw [hl, entry_ofWrites]
    exact ⟨rfl, rfl⟩
  · rw [hl, mem_toList_ofWrites, postedTo_ne_nil_iff]
  · rw [hl, size_ofWrites]

/-- A December before the year 0 with a discount and no count, and the undated period, cleared away.
Two postings come in either order. -/
theorem last_posting_stands_of_december :
    let december : Period := .month (-4) 12
    let accesses : List Access := [.write (.post .undated (.large 9)), .write .clear,
      .write (.post december (.granted 1.5)), .ask .rows, .write (.post december (.granted 2.5))]
    let l := (session .empty accesses).2
    let large : Access := .write (.post december (.large 2))
    let undated : Access := .write (.post .undated (.large 7))
    let granted : Access := .write (.post december (.granted 4.5))
    ((l.entry december).large = 0 ∧ (l.entry december).granted = 2.5 ∧ l.size = 1) ∧
      (december ≠ .undated ∧
        session .empty (accesses ++ large :: undated :: [.ask (.summary .json)]) =
          session .empty (accesses ++ undated :: large :: [.ask (.summary .json)])) ∧
      ¬ (Posting.large 2).SameFigure (.granted (4.5 : Float)) ∧
        session .empty (accesses ++ large :: granted :: [.ask .rows]) =
          session .empty (accesses ++ granted :: large :: [.ask .rows]) := by
  intro december accesses l large undated granted
  obtain ⟨hfigures, -, -, hsize, -, -, hswap⟩ := last_posting_stands accesses
  have hperiods : december ≠ .undated := by decide
  have hother : ¬ (Posting.large 2).SameFigure (.granted (4.5 : Float)) := id
  exact ⟨⟨(hfigures december).1, (hfigures december).2, hsize⟩,
    ⟨hperiods, hswap [.ask (.summary .json)] _ _ _ _ (Or.inl hperiods)⟩, hother,
    hswap [.ask .rows] _ _ _ _ (Or.inr hother)⟩

end Ledger

end ParcelPricing
