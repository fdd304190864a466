import ParcelPricing.Report.Document

/-! Arguments of the command: one input, and switches that may be given once. -/
namespace ParcelPricing.Command

inductive Switch where
  | format
  | logLevel
  | directory
  | summary
  | help
  | version
deriving DecidableEq

namespace Switch

def ofWord? (word : List Char) : Option Switch :=
  [("format", format), ("log-level", logLevel), ("config-dir", directory), ("summary", summary),
    ("help", help), ("version", version)].lookup (.ofList word)

def ofLetter? : Char → Option Switch
  | 'f' => some format
  | 'l' => some logLevel
  | 'h' => some help
  | 'V' => some version
  | _ => none

def takesValue : Switch → Bool
  | format | logLevel | directory => true
  | summary | help | version => false

end Switch

/-- What an argument is by its form. -/
inductive Shape where
  | plain
  | endOfSwitches
  | switch (s : Switch) (value : Option (List Char))
  | unknown
deriving DecidableEq

/-- What stands right after a letter is its value. A letter without a value ends the command, so
nothing after it counts. -/
def valueAfterLetter (s : Switch) (rest : List Char) : Option (List Char) :=
  if s.takesValue ∧ rest ≠ [] then some (if rest.head? = some '=' then rest.tail else rest)
  else none

def Shape.of : List Char → Shape
  | ['-'] => plain
  | ['-', '-'] => endOfSwitches
  | '-' :: '-' :: long =>
    let word := long.takeWhile (· ≠ '=')
    match Switch.ofWord? word with
    | some s => switch s (long.drop word.length).tail?
    | none => unknown
  | '-' :: letter :: rest =>
    match Switch.ofLetter? letter with
    | some s => switch s (valueAfterLetter s rest)
    | none => unknown
  | _ => plain

/-- What the arguments ask for, as far as they are read. -/
structure Wishes where
  input : Option String := none
  format : Option Report.Format := none
  summary : Bool := false
  logLevel : Option String := none
  directory : Option String := none

namespace Wishes

def withInput? (w : Wishes) (path : String) : Option Wishes :=
  if w.input.isSome ∨ path = "" then none else some { w with input := some path }

def withSummary? (w : Wishes) : Option Wishes :=
  if w.summary then none else some { w with summary := true }

/-- Not twice, and not with a value that does not suit. -/
def withValue? (w : Wishes) (s : Switch) (value : String) : Option Wishes :=
  match s with
  | .format =>
    match w.format, Report.Format.ofName value with
    | none, .ok format => some { w with format := some format }
    | _, _ => none
  | .logLevel => if w.logLevel.isSome then none else some { w with logLevel := some value }
  | .directory =>
    if w.directory.isSome ∨ value = "" then none else some { w with directory := some value }
  | .summary | .help | .version => none

end Wishes

/-- What is asked of the command, once all arguments are read. -/
structure Arguments where
  input : String
  format : Report.Format
  summary : Bool
  logLevel : Option String
  directory : Option String

inductive Request where
  | report (a : Arguments)
  | help
  | version
  | refused

namespace Request

def ofWishes (w : Wishes) : Request :=
  match w.input with
  | some input =>
    report {
      input
      format := w.format.getD .text
      summary := w.summary
      logLevel := w.logLevel
      directory := w.directory }
  | none => refused

/-- Arguments after the end of switches. -/
def readInputs (w : Wishes) : List String → Request
  | [] => ofWishes w
  | arg :: rest =>
    match w.withInput? arg with
    | some w => readInputs w rest
    | none => refused

/-- Arguments in order. The first to ask for help or for the version, or to be refused, decides. -/
def readFrom (w : Wishes) : List String → Request
  | [] => ofWishes w
  | arg :: rest =>
    match Shape.of arg.toList with
    | .endOfSwitches => readInputs w rest
    | .unknown => refused
    | .switch .help none => help
    | .switch .version none => version
    | .plain =>
      match w.withInput? arg with
      | some w => readFrom w rest
      | none => refused
    | .switch .summary none =>
      match w.withSummary? with
      | some w => readFrom w rest
      | none => refused
    | .switch s (some value) =>
      match w.withValue? s (.ofList value) with
      | some w => readFrom w rest
      | none => refused
    | .switch s none =>
      match rest with
      | [] => refused
      | value :: rest =>
        match Shape.of value.toList, w.withValue? s value with
        | .plain, some w => readFrom w rest
        | _, _ => refused

def ofArguments (args : List String) : Request := readFrom {} args

end Request

end ParcelPricing.Command
