import ParcelPricing.Decimal.Reader

namespace ParcelPricing
open Decimal

inductive LogLevel where
  | off
  | error
  | warn
  | info
  | debug
  | trace
deriving DecidableEq

namespace LogLevel

/-- Levels stand at their numbers. -/
def all : List LogLevel := [off, error, warn, info, debug, trace]

def name : LogLevel → List Char
  | off => "off".toList
  | error => "error".toList
  | warn => "warn".toList
  | info => "info".toList
  | debug => "debug".toList
  | trace => "trace".toList

/-- A level by its name, in either case, or by its number. -/
def read? (text : List Char) : Option LogLevel :=
  let digits := if text.head? = some '+' then text.tail else text
  if digits ≠ [] ∧ digits.all Char.isDigit then all[Text.value digits]?
  else all.find? fun level => level.name = lowered text

end LogLevel

end ParcelPricing
