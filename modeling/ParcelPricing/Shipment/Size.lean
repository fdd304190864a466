namespace ParcelPricing

inductive PackageSize where
  | small
  | medium
  | large
  | other (code : String)
deriving DecidableEq

namespace PackageSize

def ofCode (code : String) : PackageSize :=
  if code = "S" then small
  else if code = "M" then medium
  else if code = "L" then large
  else other code

def code : PackageSize → String
  | small => "S"
  | medium => "M"
  | large => "L"
  | other code => code

def rank : PackageSize → Nat
  | small => 0
  | medium => 1
  | large => 2
  | other _ => 3

/-- From small to large, then the others by their code. -/
instance : Ord PackageSize := ⟨compareLex (compareOn rank) (compareOn code)⟩

instance : Std.TransOrd PackageSize :=
  inferInstanceAs (Std.TransCmp (compareLex (compareOn rank) (compareOn code)))

theorem eq_of_rank_eq {a b : PackageSize} (hr : a.rank = b.rank) (hc : a.code = b.code) :
    a = b := by
  cases a <;> cases b <;> simp_all [rank, code]

instance : Std.LawfulEqOrd PackageSize where
  eq_of_compare h := by
    obtain ⟨hr, hc⟩ := compareLex_eq_eq.1 h
    exact eq_of_rank_eq (Std.LawfulEqOrd.eq_of_compare hr) (Std.LawfulEqOrd.eq_of_compare hc)

@[simp] theorem code_ofCode (code : String) : (ofCode code).code = code := by
  simp only [ofCode]
  split
  · simp_all [PackageSize.code]
  split
  · simp_all [PackageSize.code]
  split <;> simp_all [PackageSize.code]

theorem ofCode_injective {a b : String} (h : ofCode a = ofCode b) : a = b := by
  simpa using congrArg code h

end PackageSize

end ParcelPricing
