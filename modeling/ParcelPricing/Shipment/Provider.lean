namespace ParcelPricing

structure Provider where
  code : String
deriving DecidableEq

namespace Provider

def laPoste : Provider := ⟨"LP"⟩

instance : Ord Provider := ⟨compareOn code⟩

instance : Std.TransOrd Provider := inferInstanceAs (Std.TransCmp (compareOn code))

instance : Std.LawfulEqOrd Provider where
  eq_of_compare {a b} h := by
    obtain ⟨a⟩ := a
    obtain ⟨b⟩ := b
    exact congrArg mk (Std.LawfulEqOrd.eq_of_compare (show compare a b = .eq from h))

end Provider

end ParcelPricing
