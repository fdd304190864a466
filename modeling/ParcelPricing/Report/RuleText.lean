import ParcelPricing.Pricing.Rule
import ParcelPricing.Report.AmountText
import ParcelPricing.Text.Quoted

namespace ParcelPricing
open Report Text

def Condition.text : Condition Float → List Char
  | always => "always".toList
  | hasSize size => "package_size == ".toList ++ size.code.toList
  | hasProvider provider => "provider == ".toList ++ provider.code.toList
  | largeCount count => "monthly_shipment_number == ".toList ++ decimal count.toNat
  | grantedBelow limit => "accumulated_discount < ".toList ++ plainText limit
  | knownProvider => "provider in known_providers".toList
  | custom name _ => "custom(".toList ++ name.toList ++ ")".toList

/-- The condition with its kind. -/
def Condition.fullText (c : Condition Float) : List Char :=
  "Condition(".toList ++ c.text ++ ")".toList

/-- The rule with its kind, the label it goes by, and its conditions; the effect is left out. -/
def Rule.fullText (label : List Char) (r : Rule Float) : List Char :=
  "Rule \x7b id: ".toList ++ quoted label ++
    ", name: ".toList ++ quoted r.name.toList ++
    ", conditions: [".toList ++
    List.intercalate ", ".toList (r.conditions.map Condition.fullText) ++
    "], .. \x7d".toList

end ParcelPricing
