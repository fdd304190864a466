import ParcelPricing.Command.Arguments
import ParcelPricing.Command.Failure
import ParcelPricing.Pricing.Engine
import ParcelPricing.Pricing.Standard
import ParcelPricing.Settings.Load

/-! The command as a function of its arguments, the variables and the files. -/
namespace ParcelPricing.Command

def serviceName : String := "shipment-discounts"

def versionText : List Char := "shipment-discounts 0.1.0\n".toList

def helpText : List Char :=
  Report.textLines <| List.map String.toList
    ["按月度规则计算发货价格与折扣",
      "",
      "Usage: shipment-discounts [OPTIONS] <INPUT>",
      "",
      "Arguments:",
      "  <INPUT>  输入文件，每行 `DATE SIZE PROVIDER`",
      "",
      "Options:",
      "  -f, --format <FORMAT>          输出格式 (text, json) [default: text]",
      "      --summary                  额外输出月度聚合汇总",
      "  -l, --log-level <LOG_LEVEL>    日志级别，覆盖配置 (trace, debug, info, warn, error)",
      "      --config-dir <CONFIG_DIR>  配置目录，默认读取 CONFIG_DIR 或 ./config",
      "  -h, --help                     Print help",
      "  -V, --version                  Print version"]

structure Outcome where
  code : UInt32
  output : List Char := []
  /-- Why the standard settings were used, if they were. -/
  setback : Option SettingsFault := none
  failure : Option Failure := none

/-- What is told besides the output. -/
def Outcome.notes (o : Outcome) : List Char :=
  let setback := match o.setback with
    | some fault => ["Failed to load config, using defaults: ".toList ++ fault.message.toList]
    | none => []
  let failure := match o.failure with
    | some failure => [failure.chars]
    | none => []
  let refusal := if o.code = 2 then ["error: see --help for the arguments".toList] else []
  Report.textLines (setback ++ failure ++ refusal)

def Arguments.settingsDirectory (a : Arguments) (env : Variables) : String :=
  a.directory.getD (Settings.defaultDirectory env)

/-- The settings of a run. A level given as an argument stands over the one that is set. -/
def Arguments.settings (a : Arguments) (loaded : Except SettingsFault Settings) : Settings :=
  let settings := loaded.toOption.getD .standard
  match a.logLevel with
  | some level => { settings with log := { settings.log with level } }
  | none => settings

/-- The report on an input. The tariff is checked before the input is read. -/
def report (read : FileReader) (a : Arguments) (tariff : Tariff Float) :
    Except Failure (List Char) := do
  let terms ← tariff.accept.mapError .tariff
  let text ← (read.text a.input).mapError (.input a.input)
  let engine : Engine Float := ⟨Rule.standard 0, terms, .empty⟩
  let (shipments, engine) := engine.run (Shipment.readAll text.toList)
  return Report.render shipments (if a.summary then some engine.ledger else none) a.format

/-- The code of a command that a log filter without a reading breaks off. -/
def brokenCode : UInt32 := 101

/-- The log is set up before the report is begun. -/
def runReport (read : FileReader) (env : Variables) (a : Arguments) : Outcome :=
  let loaded := Settings.load read env (a.settingsDirectory env) serviceName
  let setback := match loaded with
    | .ok _ => none
    | .error fault => some fault
  let settings := a.settings loaded
  match settings.log.filter? env, report read a settings.tariff with
  | none, _ => { code := brokenCode, setback }
  | some _, .ok output => { code := 0, output, setback }
  | some _, .error failure => { code := 1, setback, failure }

def run (read : FileReader) (env : Variables) (args : List String) : Outcome :=
  match Request.ofArguments args with
  | .report a => runReport read env a
  | .help => { code := 0, output := helpText }
  | .version => { code := 0, output := versionText }
  | .refused => { code := 2 }

/-- Every path that `run` may read. -/
def paths (env : Variables) (args : List String) : List String :=
  match Request.ofArguments args with
  | .report a => a.input :: Settings.paths env (a.settingsDirectory env) serviceName
  | _ => []

end ParcelPricing.Command
