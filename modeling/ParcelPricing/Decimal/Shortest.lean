import ParcelPricing.Amount.Double

/-! The fewest digits that read back to a double, compared in natural numbers. -/
namespace ParcelPricing.Decimal

/-- `digits * 10 ^ exponent` -/
structure Numeral where
  digits : Nat
  exponent : Int
deriving DecidableEq

/-- A double counted in steps of some power of ten: `mantissa * unit / parts` of them. The next
double up is one mantissa further. -/
structure Measured where
  mantissa : Nat
  unit : Nat
  parts : Nat
  /-- the gap below a power of two is half as wide -/
  narrowBelow : Bool

namespace Measured

/-- `m * 2 ^ e` in steps of `10 ^ g`. -/
def of (m : Nat) (e g : Int) : Measured where
  mantissa := m
  unit := Nat.pow 2 e.toNat * Nat.pow 10 (-g).toNat
  parts := Nat.pow 2 (-e).toNat * Nat.pow 10 g.toNat
  narrowBelow := m = 0x10000000000000 && -1074 < e

/-- Whether `n` steps lie among the reals that round to the value. The ends belong to an even
mantissa. -/
def accepts (x : Measured) (n : Nat) : Bool :=
  let low := (4 * x.mantissa - if x.narrowBelow then 1 else 2) * x.unit
  let high := (4 * x.mantissa + 2) * x.unit
  let point := 4 * n * x.parts
  if x.mantissa % 2 = 0 then low ≤ point && point ≤ high else low < point && point < high

/-- The nearest whole number of steps that is accepted. -/
def nearest? (x : Measured) (tieUp : Bool) : Option Nat :=
  let below := x.mantissa * x.unit / x.parts
  match x.accepts below, x.accepts (below + 1) with
  | false, false => none
  | true, false => some below
  | false, true => some (below + 1)
  | true, true =>
    match compare (2 * x.mantissa * x.unit) ((2 * below + 1) * x.parts) with
    | .lt => some below
    | .gt => some (below + 1)
    | .eq => some (if tieUp || below % 2 = 1 then below + 1 else below)

end Measured

/-- The least `k` with `m * 2 ^ e < 10 ^ k`. -/
def magnitude (m : Nat) (e : Int) : Int :=
  let estimate := Amount.ratioDecade (m * Nat.pow 2 e.toNat) (Nat.pow 2 (-e).toNat)
  let x := Measured.of m e estimate
  if x.mantissa * x.unit < x.parts then estimate else estimate + 1

/-- Every digit of `m * 2 ^ e`. -/
def exact (m : Nat) (e : Int) : Numeral :=
  if 0 ≤ e then ⟨m * Nat.pow 2 e.toNat, 0⟩ else ⟨m * Nat.pow 5 (-e).toNat, e⟩

/-- Moves the zeros at the end of the digits into the exponent. -/
def Numeral.trimmed (n : Numeral) : Numeral :=
  if _h : n.digits ≠ 0 ∧ n.digits % 10 = 0 then trimmed ⟨n.digits / 10, n.exponent + 1⟩ else n
termination_by n.digits
decreasing_by omega

/-- The shortest decimal of `m * 2 ^ e`; `tieUp` settles two that are as short and as near.
Seventeen digits are always enough. -/
def shortest (m : Nat) (e : Int) (tieUp : Bool) : Numeral :=
  let top := magnitude m e
  let found := (List.range' 1 17).findSome? fun (count : Nat) =>
    let g := top - count
    ((Measured.of m e g).nearest? tieUp).map fun digits => Numeral.mk digits g
  (found.getD (exact m e)).trimmed

end ParcelPricing.Decimal
