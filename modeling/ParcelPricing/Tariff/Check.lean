import ParcelPricing.Report.AmountText
import ParcelPricing.Report.Fault
import ParcelPricing.Tariff.Basic

/-! The check of a tariff, which reports the first fault. -/
namespace ParcelPricing

inductive TariffFault (α : Type) where
  | ceilingNotPositive (ceiling : α)
  | noProvider
  | noSize
  | negativePrice (line : PriceLine α)
  | repeatedPrice (line : PriceLine α)
  | missingPrice (provider size : String)

namespace Tariff
variable {α : Type} [Amount α]

/-- Lines in order, each for its price first and then for repeating one of the `seen`. -/
def checkLines (seen : List (String × String)) : List (PriceLine α) → Except (TariffFault α) Unit
  | [] => .ok ()
  | line :: rest =>
    if ¬ 0 ≤ line.price then .error (.negativePrice line)
    else if (line.provider, line.size) ∈ seen then .error (.repeatedPrice line)
    else checkLines ((line.provider, line.size) :: seen) rest

/-- Every known provider with every known size, provider by provider. -/
def knownPairs (t : Tariff α) : List (String × String) :=
  t.providers.flatMap fun provider => t.sizes.map (provider, ·)

def check (t : Tariff α) : Except (TariffFault α) Unit := do
  if ¬ 0 < t.ceiling then throw (.ceilingNotPositive t.ceiling)
  if t.providers = [] then throw .noProvider
  if t.sizes = [] then throw .noSize
  checkLines [] t.prices
  match t.knownPairs.find? fun pair => (t.priceOf? pair.1 pair.2).isNone with
  | some (provider, size) => throw (.missingPrice provider size)
  | none => return

/-- The terms of a tariff that passes the check. -/
def accept (t : Tariff α) : Except (TariffFault α) (Terms α) := do
  t.check
  return t.terms

end Tariff

/-- A fault of a tariff as a fault of the settings that gave it. -/
def TariffFault.settingsFault : TariffFault Float → SettingsFault
  | ceilingNotPositive ceiling =>
    .invalidField "pricing.max_monthly_discount"
      ("必须为正数, 实际 " ++ .ofList (Report.plainText ceiling))
  | noProvider => .invalidField "pricing.known_providers" "至少需要一个承运商"
  | noSize => .invalidField "pricing.known_package_sizes" "至少需要一个包裹尺寸"
  | negativePrice line =>
    .invalidField "pricing.prices"
      (line.provider ++ " " ++ line.size ++ " 的价格不能为负数: " ++
        .ofList (Report.plainText line.price))
  | repeatedPrice line => .invalid ("重复的价格配置: " ++ line.provider ++ " " ++ line.size)
  | missingPrice provider size => .invalid ("缺少价格配置: " ++ provider ++ " " ++ size)

/-- A fault of a tariff as a fault of the run that asked for it. -/
def TariffFault.runFault (f : TariffFault Float) : RunFault := .pricing f.settingsFault.message

end ParcelPricing
