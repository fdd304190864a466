import ParcelPricing.Settings.Decode
import ParcelPricing.Settings.Log
import ParcelPricing.Tariff.Basic

/-! What can be set. Only a price has to be set in full. -/
namespace ParcelPricing

structure Settings where
  service : String
  environment : String
  tariff : Tariff Float
  log : LogSettings
deriving DecidableEq

namespace Settings

def standard : Settings where
  service := ""
  environment := ""
  tariff := .standard
  log := .standard

def priceLine? (s : Setting) : Option (PriceLine Float) := do
  let fields ← s.asRecord? ["provider", "package_size", "price"]
  let provider ← (← fields.get? "provider").asText?
  let size ← (← fields.get? "package_size").asText?
  let price ← (← fields.get? "price").asAmount?
  return { provider, size, price }

def tariff? (s : Setting) : Option (Tariff Float) := do
  let fields ← s.asRecord?
    ["max_monthly_discount", "known_providers", "known_package_sizes", "prices"]
  let usual : Tariff Float := .standard
  let codes := Setting.asList? Setting.asText?
  let ceiling ← fields.read? "max_monthly_discount" Setting.asAmount? usual.ceiling
  let providers ← fields.read? "known_providers" codes usual.providers
  let sizes ← fields.read? "known_package_sizes" codes usual.sizes
  let prices ← fields.read? "prices" (Setting.asList? priceLine?) usual.prices
  return { ceiling, providers, sizes, prices }

def log? (s : Setting) : Option LogSettings := do
  let fields ← s.asRecord? ["log_level", "log_format"]
  let level ← fields.read? "log_level" Setting.asText? LogSettings.standard.level
  let format ← fields.read? "log_format" Setting.asText? LogSettings.standard.format
  return { level, format }

def ofSetting? (s : Setting) : Option Settings := do
  let fields ← s.asRecord? ["service_name", "environment", "pricing", "observability"]
  let service ← fields.read? "service_name" Setting.asText? standard.service
  let environment ← fields.read? "environment" Setting.asText? standard.environment
  let tariff ← fields.read? "pricing" tariff? standard.tariff
  let log ← fields.read? "observability" log? standard.log
  return { service, environment, tariff, log }

end Settings

end ParcelPricing
