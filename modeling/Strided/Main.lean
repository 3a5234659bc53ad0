import Strided.CommandLine.Run

/-!
# The program

Reads the environment and the file that the arguments ask for, runs the command line on them, and
puts out what it answers.
-/

namespace Strided.CommandLine

/-- How the program is called. -/
def usage : String :=
  "usage: " ++ programName ++ " [-h] [-s SUBSCRIPT_OPTION] [-b] [-d DTYPE] [-c]\n"
    ++ "                 filename [subscript]\n"

def helpText : String :=
  usage ++ "\nslice a one-dimensional data file\n\n"
    ++ "positional arguments:\n  filename\n  subscript\n\noptions:\n"
    ++ "  -h, --help            show this help message and exit\n"
    ++ "  -s SUBSCRIPT_OPTION, --subscript SUBSCRIPT_OPTION\n"
    ++ "  -b, --binary\n  -d DTYPE, --dtype DTYPE\n  -c, --check\n"

/-- The records of a report that are shown under the settings, a line each. -/
def shownRecords (settings : Settings) (r : Report) : String :=
  match settings.logging with
  | .error _ => ""
  | .ok shown =>
    let lines := (r.log.filter fun record => shown.level ≤ record.level.number).map fun record =>
      record.channel.name ++ " - " ++ record.level.name ++ " - " ++ record.message ++ "\n"
    String.join lines

/-- What is said on the error output besides the records. -/
def errorText (r : Report) : String :=
  match r.ending with
  | .done _ => r.errors
  | .refused .helpWanted => ""
  | .refused _ => usage ++ r.errors
  | .failed f => f.kind.name ++ ": " ++ f.message ++ "\n"

def outputBytes (r : Report) : List UInt8 :=
  if r.ending = .refused .helpWanted then Text.Utf8.encode helpText else r.output

def readSettings : IO Settings := do
  let level ← IO.getEnv Settings.logLevelVariable
  let checks ← IO.getEnv Settings.debugChecksVariable
  pure (Settings.ofEnvironment fun name =>
    if name = Settings.logLevelVariable then level else checks)

/-- Why a file cannot be read. -/
def readFault (name : String) : IO.Error → Fault
  | .noFileOrDirectory .. => .noSuchFile name
  | .inappropriateType .. => .isDirectory name
  | e => .raised .os (toString e)

/-- Reads a file, if it can be read. -/
def readFile (name : String) : IO (Except Fault StoredFile) := do
  try
    let bytes ← IO.FS.readBinFile name
    pure (.ok (StoredFile.ofBytes bytes.data.toList))
  catch e => pure (.error (readFault name e))

def execute (argv : List String) : IO UInt32 := do
  let settings ← readSettings
  let file ← match fileWanted argv with
    | some name => readFile name
    | none => pure (.error (.noSuchFile ""))
  let report := run settings (fun _ => file) argv
  (← IO.getStderr).putStr (shownRecords settings report ++ errorText report)
  (← IO.getStdout).write (ByteArray.mk (outputBytes report).toArray)
  pure (UInt32.ofNat report.ending.status)

end Strided.CommandLine

/-- The program. -/
def main (argv : List String) : IO UInt32 := Strided.CommandLine.execute argv
