import ParcelPricing.Amount.Exact
import ParcelPricing.Main
import ParcelPricing.Report.RuleText
import ParcelPricing.Json.Reader
import ParcelPricing.Proofs.Bookkeeping
import ParcelPricing.Proofs.Ceiling
import ParcelPricing.Proofs.LargeCount
import ParcelPricing.Proofs.Months
import ParcelPricing.Proofs.TariffCheck
import ParcelPricing.Proofs.TariffTerms
import ParcelPricing.Proofs.Rejection
import ParcelPricing.Proofs.Passes
import ParcelPricing.Proofs.RuleOrder
import ParcelPricing.Proofs.Frame
import ParcelPricing.Proofs.PriceBounds
import ParcelPricing.Proofs.TextReport
import ParcelPricing.Proofs.Splitting
import ParcelPricing.Proofs.CommandOutcome
import ParcelPricing.Proofs.Precedence
import ParcelPricing.Proofs.JsonReport
import ParcelPricing.Proofs.TariffOrder
import ParcelPricing.Proofs.Clipping
import ParcelPricing.Proofs.DoubleOrder
import ParcelPricing.Proofs.DoubleRounding
import ParcelPricing.Proofs.DoubleSum
import ParcelPricing.Proofs.Exhausted
import ParcelPricing.Proofs.DoublePower
import ParcelPricing.Proofs.DoubleDigit
import ParcelPricing.Proofs.LargerProposal
import ParcelPricing.Proofs.FirstFault
import ParcelPricing.Proofs.SmallProposal
import ParcelPricing.Proofs.DateSyntax
import ParcelPricing.Proofs.OneDigitRounding
import ParcelPricing.Proofs.UtcDate
import ParcelPricing.Proofs.Spacing
import ParcelPricing.Proofs.RuleEdits
import ParcelPricing.Proofs.LedgerHistory
import ParcelPricing.Proofs.PriceHistory
import ParcelPricing.Proofs.PeriodLabels
