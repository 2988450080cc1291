import LinkGauge.CommandLine
import LinkGauge.Config.Basic

/-!
# The program

The program reads its arguments and the file they name, and shows the configuration with
which a server starts, or why there is none.
-/

namespace LinkGauge

/-- The failure of reading a file, as the system reports it. -/
def readFailure : IO.Error → SystemError
  | .noFileOrDirectory _ number _ => .code number.toNat
  | .permissionDenied _ number _ => .code number.toNat
  | .inappropriateType _ number _ => .code number.toNat
  | error => .other (toString error)

/-- What a file holds, or why it cannot be read. -/
def readContent (path : String) : IO (Except SystemError (List UInt8)) := do
  match ← (IO.FS.readBinFile path).toBaseIO with
  | .ok bytes => return .ok bytes.toList
  | .error error => return .error (readFailure error)

/-- Shows the configuration that arguments give; the result is the exit code. -/
def showConfiguration (a : Arguments) : IO UInt32 := do
  let content ←
    match a.config with
    | some path => readContent path
    | none => pure (.ok [])
  match a.configuration fun _ => content with
  | .ok config =>
    for line in config.overview do
      IO.println line
    return 0
  | .error error =>
    IO.eprintln ("Error: " ++ error.message)
    return 1

/-- Runs the program with the arguments behind its name. -/
def runProgram (arguments : List String) : IO UInt32 := do
  match Arguments.parse arguments with
  | .ok a => showConfiguration a
  | .error .help =>
    IO.println ArgumentError.help.message
    return 0
  | .error error =>
    IO.eprintln ("error: " ++ error.message)
    return 2

end LinkGauge

/-- The program. -/
def main (arguments : List String) : IO UInt32 := LinkGauge.runProgram arguments
