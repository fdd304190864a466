import ParcelPricing.Command.Run
import ParcelPricing.Proofs.TariffCheck

/-! A command shows a whole report, or nothing and the first fault. -/
namespace ParcelPricing.Command

namespace Arguments

/-- What is loaded from the directory that a command chooses. -/
def loaded (a : Arguments) (read : FileReader) (env : Variables) : Except SettingsFault Settings :=
  Settings.load read env (a.settingsDirectory env) serviceName

/-- The tariff that is loaded, or the standard one as a whole where loading fails. -/
def tariff (a : Arguments) (read : FileReader) (env : Variables) : Tariff Float :=
  match a.loaded read env with
  | .ok settings => settings.tariff
  | .error _ => Settings.standard.tariff

/-- Whether the log of a command can be set up. -/
def CanLog (a : Arguments) (read : FileReader) (env : Variables) : Prop :=
  ((a.settings (a.loaded read env)).log.filter? env).isSome = true

/-- The report of the standard rules on a text, with new books. -/
def reportOn (a : Arguments) (tariff : Tariff Float) (text : List Char) : List Char :=
  let e : Engine Float := ⟨Rule.standard 0, tariff.terms, .empty⟩
  let (shipments, e) := e.run (Shipment.readAll text)
  Report.render shipments (if a.summary then some e.ledger else none) a.format

/-- A level that is given as an argument changes nothing but the log. -/
theorem tariff_settings (a : Arguments) (read : FileReader) (env : Variables) :
    (a.settings (a.loaded read env)).tariff = a.tariff read env := by
  have hlevel : ∀ loaded, (a.settings loaded).tariff = (loaded.toOption.getD .standard).tariff := by
    intro loaded
    unfold settings
    cases a.logLevel <;> rfl
  rw [hlevel, tariff]
  cases a.loaded read env <;> rfl

theorem tariff_of_loaded (a : Arguments) {read : FileReader} {env : Variables} {settings : Settings}
    (h : a.loaded read env = .ok settings) : a.tariff read env = settings.tariff := by
  rw [tariff, h]

end Arguments

theorem eq_ok_of_toOption {fault β : Type} {b : β} {result : Except fault β}
    (h : result.toOption = some b) : result = .ok b := by
  cases result with
  | error _ => cases h
  | ok _ =>
    cases h
    rfl

variable {read read' : FileReader} {env env' : Variables} {args args' : List String}
  {a a' : Arguments} {tariff : Tariff Float}

theorem report_of_check {fault : TariffFault Float} (h : tariff.check = .error fault) :
    report read a tariff = .error (.tariff fault) := by
  rw [report, Tariff.accept, h]
  rfl

theorem report_of_text {fault : InputFault} (h : tariff.check = .ok ())
    (htext : read.text a.input = .error fault) :
    report read a tariff = .error (.input a.input fault) := by
  rw [report, Tariff.accept, h, htext]
  rfl

theorem report_of_ok {text : String} (h : tariff.check = .ok ())
    (htext : read.text a.input = .ok text) :
    report read a tariff = .ok (a.reportOn tariff text.toList) := by
  rw [report, Tariff.accept, h, htext]
  rfl

/-- A report depends on no more than what is read at the input. -/
theorem report_congr (hinput : a'.input = a.input) (hformat : a'.format = a.format)
    (hsummary : a'.summary = a.summary) (htext : read'.text a.input = read.text a.input) :
    report read' a' tariff = report read a tariff := by
  simp only [report, hinput, hformat, hsummary, htext]

/-- What a command shows: a report, or a failure and nothing else. -/
theorem run_eq (hargs : Request.ofArguments args = .report a) (hlog : a.CanLog read env) :
    ((run read env args).code, (run read env args).output, (run read env args).failure) =
      match report read a (a.tariff read env) with
      | .ok output => (0, output, none)
      | .error failure => (1, [], some failure) := by
  obtain ⟨filter, hfilter⟩ := Option.isSome_iff_exists.1 hlog
  have htariff := a.tariff_settings read env
  unfold Arguments.loaded at hfilter htariff
  simp only [run, hargs, runReport, hfilter, htariff]
  cases report read a (a.tariff read env) <;> rfl

end ParcelPricing.Command
