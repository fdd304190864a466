/-! Finite maps in ascending order of their keys. A map has one listing. -/
namespace ParcelPricing

structure SortedMap (κ ν : Type) [Ord κ] where
  toList : List (κ × ν)
  ascending : toList.Pairwise fun a b => compare a.1 b.1 = .lt

namespace SortedMap
variable {κ ν : Type} [Ord κ]

def empty : SortedMap κ ν := ⟨[], .nil⟩

def size (m : SortedMap κ ν) : Nat := m.toList.length

def isEmpty (m : SortedMap κ ν) : Bool := m.toList.isEmpty

def keys (m : SortedMap κ ν) : List κ := m.toList.map Prod.fst

def lookUp (k : κ) : List (κ × ν) → Option ν
  | [] => none
  | (k', v) :: rest => if compare k k' = .eq then some v else lookUp k rest

def get? (m : SortedMap κ ν) (k : κ) : Option ν := lookUp k m.toList

@[simp] theorem get?_empty (k : κ) : (empty : SortedMap κ ν).get? k = none := rfl

def contains (m : SortedMap κ ν) (k : κ) : Bool := (m.get? k).isSome

/-- A key before all the others is none of them. -/
theorem lookUp_eq_none {k : κ} {l : List (κ × ν)} (h : ∀ e ∈ l, compare k e.1 = .lt) :
    lookUp k l = none := by
  induction l with
  | nil => rfl
  | cons head rest ih =>
    have hk : ¬ compare k head.1 = .eq := by simp [h head List.mem_cons_self]
    rw [lookUp, if_neg hk]
    exact ih fun e he => h e (List.mem_cons_of_mem _ he)

theorem mem_iff_lookUp [Std.LawfulEqOrd κ] {k : κ} {v : ν} {l : List (κ × ν)}
    (h : l.Pairwise fun a b => compare a.1 b.1 = .lt) : (k, v) ∈ l ↔ lookUp k l = some v := by
  induction l with
  | nil => simp [lookUp]
  | cons head rest ih =>
    obtain ⟨k', v'⟩ := head
    obtain ⟨hhead, hrest⟩ := List.pairwise_cons.1 h
    rw [List.mem_cons, ih hrest, lookUp]
    by_cases hk : k = k'
    · subst hk
      have hnone : lookUp k rest = none := lookUp_eq_none hhead
      simp [hnone, eq_comm]
    · simp [hk]

/-- What is listed is what is found. -/
theorem mem_toList [Std.LawfulEqOrd κ] (m : SortedMap κ ν) {k : κ} {v : ν} :
    (k, v) ∈ m.toList ↔ m.get? k = some v :=
  mem_iff_lookUp m.ascending

/-- Puts an entry in its place, over the entry of the same key if there is one. -/
def place (k : κ) (v : ν) : List (κ × ν) → List (κ × ν)
  | [] => [(k, v)]
  | (k', v') :: rest =>
    match compare k k' with
    | .lt => (k, v) :: (k', v') :: rest
    | .eq => (k, v) :: rest
    | .gt => (k', v') :: place k v rest

theorem mem_place {k : κ} {v : ν} {e : κ × ν} {l : List (κ × ν)} (h : e ∈ place k v l) :
    e = (k, v) ∨ e ∈ l := by
  induction l with
  | nil => simpa [place] using h
  | cons head rest ih =>
    simp only [place] at h
    split at h <;> simp only [List.mem_cons] at h ⊢
    · exact h
    · exact h.imp id .inr
    · exact h.elim (.inr ∘ .inl) fun h => (ih h).imp id .inr

variable [Std.TransOrd κ]

theorem nodup_keys (m : SortedMap κ ν) : m.keys.Nodup := by
  refine List.pairwise_map.2 (m.ascending.imp ?_)
  rintro a b h heq
  rw [heq, Std.ReflOrd.compare_self] at h
  cases h

/-- A listing does not begin after a key that is in it. -/
theorem not_lt_of_lookUp {k : κ} {head : κ × ν} {rest : List (κ × ν)}
    (hhead : ∀ e ∈ rest, compare head.1 e.1 = .lt) (h : (lookUp k (head :: rest)).isSome) :
    ¬ compare k head.1 = .lt := by
  intro hk
  have hnone : lookUp k (head :: rest) = none := by
    refine lookUp_eq_none fun e he => ?_
    rcases List.mem_cons.1 he with rfl | he
    · exact hk
    · exact Std.TransCmp.lt_trans hk (hhead e he)
  simp [hnone] at h

variable [Std.LawfulEqOrd κ]

theorem pairwise_place (k : κ) (v : ν) {l : List (κ × ν)}
    (h : l.Pairwise fun a b => compare a.1 b.1 = .lt) :
    (place k v l).Pairwise fun a b => compare a.1 b.1 = .lt := by
  induction l with
  | nil => simp [place]
  | cons head rest ih =>
    obtain ⟨k', v'⟩ := head
    obtain ⟨hhead, hrest⟩ := List.pairwise_cons.1 h
    simp only [place]
    split
    · rename_i hk
      refine List.pairwise_cons.2 ⟨fun e he => ?_, h⟩
      obtain rfl | he := List.mem_cons.1 he
      · exact hk
      · exact Std.TransCmp.lt_trans hk (hhead e he)
    · rename_i hk
      cases Std.LawfulEqOrd.eq_of_compare hk
      exact List.pairwise_cons.2 ⟨hhead, hrest⟩
    · rename_i hk
      refine List.pairwise_cons.2 ⟨fun e he => ?_, ih hrest⟩
      obtain rfl | he := mem_place he
      · exact Std.OrientedCmp.gt_iff_lt.1 hk
      · exact hhead e he

def insert (m : SortedMap κ ν) (k : κ) (v : ν) : SortedMap κ ν :=
  ⟨place k v m.toList, pairwise_place k v m.ascending⟩

/-- Later entries of a list win over earlier ones of the same key. -/
def ofList (entries : List (κ × ν)) : SortedMap κ ν :=
  entries.foldl (fun m e => m.insert e.1 e.2) empty

theorem get?_insert (m : SortedMap κ ν) (k j : κ) (v : ν) :
    (m.insert k v).get? j = if compare j k = .eq then some v else m.get? j := by
  obtain ⟨l, hl⟩ := m
  simp only [get?, insert]
  clear hl
  induction l with
  | nil => simp [place, lookUp]
  | cons head rest ih =>
    obtain ⟨k', v'⟩ := head
    simp only [place]
    split
    · simp only [lookUp]
    · rename_i hk
      cases Std.LawfulEqOrd.eq_of_compare hk
      simp only [lookUp]
      split <;> rfl
    · rename_i hk
      simp only [lookUp, ih]
      split <;> rename_i hj
      · cases Std.LawfulEqOrd.eq_of_compare hj
        simp [Std.OrientedCmp.gt_iff_lt.1 hk]
      · rfl

theorem get?_insert_self (m : SortedMap κ ν) (k : κ) (v : ν) : (m.insert k v).get? k = some v := by
  simp [get?_insert]

theorem get?_insert_of_ne (m : SortedMap κ ν) {k j : κ} (v : ν) (h : j ≠ k) :
    (m.insert k v).get? j = m.get? j := by
  simp [get?_insert, h]

theorem contains_insert (m : SortedMap κ ν) (k j : κ) (v : ν) :
    (m.insert k v).contains j = true ↔ j = k ∨ m.contains j = true := by
  by_cases h : j = k
  · simp [contains, h, get?_insert_self]
  · simp [contains, h, get?_insert_of_ne m v h]

theorem contains_foldl_insert (entries : List (κ × ν)) (m : SortedMap κ ν) (k : κ) :
    (entries.foldl (fun m e => m.insert e.1 e.2) m).contains k = true ↔
      k ∈ entries.map Prod.fst ∨ m.contains k = true := by
  induction entries generalizing m with
  | nil => simp
  | cons e rest ih =>
    rw [List.foldl_cons, ih, contains_insert, List.map_cons, List.mem_cons, or_assoc, or_left_comm]

theorem contains_ofList (entries : List (κ × ν)) (k : κ) :
    (ofList entries).contains k = true ↔ k ∈ entries.map Prod.fst := by
  rw [ofList, contains_foldl_insert]
  simp [contains]

theorem eq_of_lookUp_eq {l l' : List (κ × ν)}
    (hl : l.Pairwise fun a b => compare a.1 b.1 = .lt)
    (hl' : l'.Pairwise fun a b => compare a.1 b.1 = .lt)
    (h : ∀ k, lookUp k l = lookUp k l') : l = l' := by
  induction l generalizing l' with
  | nil =>
    cases l' with
    | nil => rfl
    | cons head' rest' => simpa [lookUp] using h head'.1
  | cons head rest ih =>
    cases l' with
    | nil => simpa [lookUp] using h head.1
    | cons head' rest' =>
      obtain ⟨k, v⟩ := head
      obtain ⟨k', v'⟩ := head'
      obtain ⟨hhead, hrest⟩ := List.pairwise_cons.1 hl
      obtain ⟨hhead', hrest'⟩ := List.pairwise_cons.1 hl'
      have hk : ¬ compare k k' = .lt :=
        not_lt_of_lookUp hhead' (by rw [← h]; simp [lookUp])
      have hk' : ¬ compare k' k = .lt :=
        not_lt_of_lookUp hhead (by rw [h]; simp [lookUp])
      have heq : k = k' := by
        cases hc : compare k k' with
        | lt => exact absurd hc hk
        | eq => exact Std.LawfulEqOrd.eq_of_compare hc
        | gt => exact absurd (Std.OrientedCmp.gt_iff_lt.1 hc) hk'
      subst heq
      have hv : v = v' := by simpa [lookUp] using h k
      subst hv
      -- The key at the head is in neither of the two rests.
      have hrests : ∀ j, lookUp j rest = lookUp j rest' := by
        intro j
        by_cases hj : j = k
        · rw [hj, lookUp_eq_none hhead, lookUp_eq_none hhead']
        · simpa [lookUp, hj] using h j
      rw [ih hrest hrest' hrests]

theorem ext_get? {m m' : SortedMap κ ν} (h : ∀ k, m.get? k = m'.get? k) : m = m' := by
  obtain ⟨l, hl⟩ := m
  obtain ⟨l', hl'⟩ := m'
  have heq : l = l' := eq_of_lookUp_eq hl hl' h
  subst heq
  rfl

end SortedMap

/-- Sets are maps that hold nothing beside their keys. -/
abbrev SortedSet (κ : Type) [Ord κ] := SortedMap κ Unit

def SortedSet.ofKeys {κ : Type} [Ord κ] [Std.TransOrd κ] [Std.LawfulEqOrd κ] (keys : List κ) :
    SortedSet κ :=
  SortedMap.ofList (keys.map (·, ()))

theorem SortedSet.contains_ofKeys {κ : Type} [Ord κ] [Std.TransOrd κ] [Std.LawfulEqOrd κ]
    (keys : List κ) (k : κ) : (SortedSet.ofKeys keys).contains k = true ↔ k ∈ keys := by
  rw [SortedSet.ofKeys, SortedMap.contains_ofList]
  simp

end ParcelPricing
