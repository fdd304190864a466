import ParcelPricing.Command.Run

namespace ParcelPricing.Command

/-- The code by which a system tells that a path leads to a directory. -/
def directoryCode : UInt32 := 21

/-- What reading a path gives. A failure of another kind ends the command. -/
def readPath (path : String) : IO (Except InputFault ByteArray) := do
  try
    return .ok (← IO.FS.readBinFile path)
  catch
    | .noFileOrDirectory .. => return .error .missing
    | .inappropriateType _ code _ =>
      return .error (if code = directoryCode then .directory else .belowFile)
    | .invalidArgument .. => return .error .longName
    | fault => throw fault

/-- Variables as a system keeps them: a name, an equals sign and a value, ended by a null. -/
def splitVariables (text : List Char) : Variables :=
  (text.splitOn '\x00').filterMap fun entry =>
    let name := entry.takeWhile (· ≠ '=')
    match entry.drop name.length with
    | [] => none
    | _ :: value => some (.ofList name, .ofList value)

def readVariables : IO Variables := do
  match String.fromUTF8? (← IO.FS.readBinFile "/proc/self/environ") with
  | some text => return splitVariables text.toList
  | none => return []

def execute (args : List String) : IO UInt32 := do
  let env ← readVariables
  let files ← (paths env args).mapM fun path => do return (path, ← readPath path)
  let read : FileReader := fun path => (files.lookup path).getD (.error .missing)
  let outcome := run read env args
  IO.print (String.ofList outcome.output)
  IO.eprint (String.ofList outcome.notes)
  return outcome.code

end ParcelPricing.Command

def main (args : List String) : IO UInt32 := ParcelPricing.Command.execute args
