import ParcelPricing.Text.Numeral

/-! The months that discounts are counted by. -/
namespace ParcelPricing
open Text

inductive Period where
  | month (year : Int) (number : Nat)
  | undated
deriving DecidableEq

namespace Period

/-- Undated last. -/
def rank : Period → Nat
  | month .. => 0
  | undated => 1

def year : Period → Int
  | month year _ => year
  | undated => 0

def number : Period → Nat
  | month _ number => number
  | undated => 0

def order : Period → Period → Ordering :=
  compareLex (compareOn rank) (compareLex (compareOn year) (compareOn number))

instance : Ord Period := ⟨order⟩

instance : Std.TransOrd Period :=
  inferInstanceAs (Std.TransCmp
    (compareLex (compareOn rank) (compareLex (compareOn year) (compareOn number))))

instance : Std.LawfulEqOrd Period where
  eq_of_compare {a b} h := by
    obtain ⟨hr, h⟩ := compareLex_eq_eq.1 h
    obtain ⟨hy, hn⟩ := compareLex_eq_eq.1 h
    have hr : a.rank = b.rank := Std.LawfulEqOrd.eq_of_compare hr
    have hy : a.year = b.year := Std.LawfulEqOrd.eq_of_compare hy
    have hn : a.number = b.number := Std.LawfulEqOrd.eq_of_compare hn
    cases a <;> cases b <;> simp_all [rank, year, number]

/-- The year in four places, of which a minus sign takes one, and the month in two. -/
def chars : Period → List Char
  | month year number =>
    (if year < 0 then '-' :: padded 3 year.natAbs else padded 4 year.natAbs) ++
      '-' :: padded 2 number
  | undated => "invalid".toList

def text (p : Period) : String := .ofList p.chars

end Period

end ParcelPricing
