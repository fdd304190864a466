/-! Amounts of money. No law is assumed, since floating point keeps few of them. -/
namespace ParcelPricing

class Amount (α : Type) extends Zero α, Add α, Sub α, Mul α, Div α, LT α, LE α, OfScientific α where
  decidableLT : DecidableLT α
  decidableLE : DecidableLE α
  /-- The nearest whole amount; a half goes away from zero. -/
  round : α → α
  /-- The exponent of ten of a positive amount's leading digit, or a neighbour of it. -/
  decade : α → Int

namespace Amount
variable {α : Type} [Amount α]

instance : DecidableLT α := decidableLT
instance : DecidableLE α := decidableLE

def IsNumber (a : α) : Prop := a ≤ a

def IsZero (a : α) : Prop := a ≤ 0 ∧ 0 ≤ a

/-- An infinite amount has no difference from itself. -/
def IsFinite (a : α) : Prop := IsNumber (a - a)

instance (a : α) : Decidable (IsNumber a) := inferInstanceAs (Decidable (a ≤ a))
instance (a : α) : Decidable (IsZero a) := inferInstanceAs (Decidable (_ ∧ _))
instance (a : α) : Decidable (IsFinite a) := inferInstanceAs (Decidable (IsNumber _))

def magnitude (a : α) : α := if a < 0 then 0 - a else a

/-- The smaller of two amounts. What is no number gives way to what is one; of equal amounts the
second is kept. -/
def lesser (a b : α) : α := if a < b then a else if IsNumber b then b else a

/-- The larger of two amounts. What is no number gives way to what is one; of equal amounts the
second is kept. -/
def greater (a b : α) : α := if b < a then a else if IsNumber b then b else a

/-- The least amount of a list, if there is any. -/
def least? : List α → Option α
  | [] => none
  | a :: as => some (as.foldl lesser a)

end Amount

end ParcelPricing
