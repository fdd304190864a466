import ParcelPricing.Tariff.Check
import ParcelPricing.Text.Numeral

namespace ParcelPricing.Command

/-- Line feeds within a text keep its indentation. -/
def indented (width : Nat) (text : List Char) : List Char :=
  text.flatMap fun c => if c = '\n' then c :: List.replicate width ' ' else [c]

def numberedCause (number : Nat) (cause : List Char) : List Char :=
  let digits := Text.decimal number
  '\n' :: List.replicate (5 - digits.length) ' ' ++ digits ++ [':', ' '] ++ indented 7 cause

def numberedCauses (number : Nat) : List (List Char) → List Char
  | [] => []
  | cause :: rest => numberedCause number cause ++ numberedCauses (number + 1) rest

def causesText : List (List Char) → List Char
  | [] => []
  | [cause] => "\n\nCaused by:\n    ".toList ++ indented 4 cause
  | causes => "\n\nCaused by:".toList ++ numberedCauses 0 causes

inductive Failure where
  | tariff (fault : TariffFault Float)
  | input (path : String) (fault : InputFault)

namespace Failure

def context : Failure → String
  | tariff _ => "Invalid pricing configuration"
  | input path _ => "Could not read the file " ++ path

/-- Each cause is told by the next. -/
def causes : Failure → List String
  | tariff fault => [fault.runFault.message]
  | input _ fault => [(RunFault.input fault).message, fault.message]

def chars (f : Failure) : List Char :=
  "Error: ".toList ++ f.context.toList ++ causesText (f.causes.map String.toList)

end Failure

end ParcelPricing.Command
