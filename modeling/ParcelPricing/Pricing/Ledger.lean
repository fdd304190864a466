import ParcelPricing.Amount
import ParcelPricing.Shipment.Period
import ParcelPricing.SortedMap

/-! The monthly books. A posting overwrites one figure of a period. -/
namespace ParcelPricing

structure MonthEntry (α : Type) where
  large : UInt32
  granted : α

inductive Posting (α : Type) where
  | large (count : UInt32)
  | granted (amount : α)

structure Ledger (α : Type) where
  months : SortedMap Period (MonthEntry α)

namespace MonthEntry
variable {α : Type}

def zero [Amount α] : MonthEntry α := ⟨0, 0⟩

def post (e : MonthEntry α) : Posting α → MonthEntry α
  | .large count => { e with large := count }
  | .granted amount => { e with granted := amount }

@[simp] theorem large_post_large (e : MonthEntry α) (n : UInt32) :
    (e.post (.large n)).large = n := rfl

@[simp] theorem granted_post_large (e : MonthEntry α) (n : UInt32) :
    (e.post (.large n)).granted = e.granted := rfl

@[simp] theorem large_post_granted (e : MonthEntry α) (a : α) :
    (e.post (.granted a)).large = e.large := rfl

@[simp] theorem granted_post_granted (e : MonthEntry α) (a : α) :
    (e.post (.granted a)).granted = a := rfl

end MonthEntry

namespace Ledger
variable {α : Type}

def empty : Ledger α := ⟨.empty⟩

def size (l : Ledger α) : Nat := l.months.size

def isEmpty (l : Ledger α) : Bool := l.months.isEmpty

def toList (l : Ledger α) : List (Period × MonthEntry α) := l.months.toList

def hasEntry (l : Ledger α) (p : Period) : Bool := l.months.contains p

theorem ext_get? {l m : Ledger α} (h : ∀ p, l.months.get? p = m.months.get? p) : l = m := by
  obtain ⟨months⟩ := l
  obtain ⟨months'⟩ := m
  exact congrArg mk (SortedMap.ext_get? h)

variable [Amount α]

def entry (l : Ledger α) (p : Period) : MonthEntry α := (l.months.get? p).getD .zero

def post (l : Ledger α) (p : Period) (posting : Posting α) : Ledger α :=
  ⟨l.months.insert p ((l.entry p).post posting)⟩

theorem get?_post (l : Ledger α) (p q : Period) (posting : Posting α) :
    (l.post p posting).months.get? q =
      if q = p then some ((l.entry p).post posting) else l.months.get? q := by
  simp only [post, SortedMap.get?_insert, Std.LawfulEqOrd.compare_eq_iff_eq]

theorem entry_post (l : Ledger α) (p q : Period) (posting : Posting α) :
    (l.post p posting).entry q = if q = p then (l.entry p).post posting else l.entry q := by
  simp only [entry, get?_post]
  split <;> simp

/-- The two figures of the books are posted to in either order. -/
theorem post_granted_large (l : Ledger α) (p q : Period) (count : UInt32) (amount : α) :
    (l.post p (.granted amount)).post q (.large count) =
      (l.post q (.large count)).post p (.granted amount) := by
  refine ext_get? fun r => ?_
  simp only [get?_post, entry_post]
  by_cases hq : r = q
  · by_cases hp : r = p
    · subst hq hp
      simp only [if_true]
      rfl
    · subst hq
      simp only [if_true, if_neg hp]
  · by_cases hp : r = p
    · subst hp
      simp only [if_true, if_neg hq]
    · simp only [if_neg hp, if_neg hq]

end Ledger

end ParcelPricing
