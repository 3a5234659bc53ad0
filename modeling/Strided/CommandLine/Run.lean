import Strided.ArrayFile
import Strided.Collector.Forwarding
import Strided.CommandLine.Check
import Strided.CommandLine.Emission
import Strided.CommandLine.Options
import Strided.Settings
import Strided.Subscript

/-!
# Running the command line

`run` is the whole program as a function of its arguments, the settings and the files: a column of
numbers is loaded, subscripted and written.  It answers how the program ends, and what it has
written to its two outputs and to the log.
-/

namespace Strided.CommandLine

/-- How the program ends. -/
inductive Ending where
  /-- It has done its work, with this status. -/
  | done (status : Nat)
  /-- The arguments are refused. -/
  | refused (r : Refusal)
  /-- It is broken off. -/
  | failed (f : Fault)
  deriving DecidableEq, Repr

def programName : String := "stridebin"

/-- What the program has done. -/
structure Report where
  ending : Ending
  output : List UInt8
  errors : String
  log : List Log.Record
  deriving DecidableEq, Repr

def Ending.status : Ending → Nat
  | done status => status
  | refused .helpWanted => 0
  | refused _ => 2
  | failed _ => 1

namespace Report

/-- The arguments are refused, which is said on the error output. -/
def refuse (r : Refusal) : Report where
  ending := .refused r
  output := []
  errors := if r = .helpWanted then "" else s!"{programName}: error: {r.message}\n"
  log := []

def fail (f : Fault) (output : List UInt8) (log : List Log.Record) : Report :=
  ⟨.failed f, output, "", log⟩

end Report

def Written.octets : Written → List UInt8
  | .text s => Text.Utf8.encode s
  | .bytes b => b

/-- The collector that writes to the output of the program. -/
def outputCollector (binary : Bool) : Forwarding :=
  ⟨binary, false, ⟨0⟩, .empty (if binary then .binary else .text) none⟩

def loadedRecord (a : TypedArray) : Log.Record :=
  ⟨.main, .info, "loaded " ++ Backing.describeArray a⟩

/-- Subscripts a loaded array, writes what is picked, and checks it if that is asked for.  There is
room for a list of `room` elements. -/
def subscriptArrayWithin (room : Nat) (checks : Bool) (a : TypedArray) (args : Arguments)
    (text : String) (subscript : Subscript) : Report :=
  let name := args.filename.getD ""
  let about := s!"{text} of {name}\n"
  let picked := do
    let view ← View.ofBacking (Backing.ofArray 0 "NumpyBacking" .numeric a)
    view.get checks subscript.toValue
  let log := loadedRecord a :: picked.records
  match picked.outcome with
  | .error f =>
    if f.kind.isA .library then ⟨.done 2, [], s!"{f.message} for {about}", log⟩
    else .fail f [] log
  | .ok result =>
    let written :=
      emit Forwarding.onChunk checks a.type args.binary (outputCollector args.binary) result
    let output := written.state.sink.writes.flatMap Written.octets
    let log := log ++ written.log
    match written.outcome with
    | .error f => .fail f output log
    | .ok _ =>
      if args.check then
        let verdict := agrees room checks a subscript.toValue result
        let log := log ++ verdict.records
        match verdict.outcome with
        | .error f => .fail f output log
        | .ok true => ⟨.done 0, output, "", log⟩
        | .ok false => ⟨.done 1, output, s!"check failed for {about}", log⟩
      else ⟨.done 0, output, "", log⟩

/-- Subscripts a loaded array, writes what is picked, and checks it if that is asked for. -/
def subscriptArray (checks : Bool) (a : TypedArray) (args : Arguments) (text : String)
    (subscript : Subscript) : Report :=
  subscriptArrayWithin View.listLimit checks a args text subscript

def fileWanted (argv : List String) : Option String :=
  match Arguments.read (Subscript.quoteNegativeSlices argv) with
  | .error _ => none
  | .ok args => args.filename

/-- Carries out what the arguments ask for. -/
def carryOut (room : Nat) (settings : Settings) (files : String → Except Fault StoredFile)
    (args : Arguments) : Report :=
  match settings.logging with
  | .error f => .fail f [] []
  | .ok _ =>
    match args.subscriptOption.or (args.subscript.map some) with
    | none => .refuse .subscriptMissing
    | some none => .fail (.noAttribute "list" "split") [] []
    | some (some text) =>
      match Subscript.parse text with
      | .error f => .refuse (.invalid f.message)
      | .ok subscript =>
        match StoredFile.load files (args.filename.getD "") args.dtype with
        | .error f => .fail f [] []
        | .ok a => subscriptArrayWithin room settings.debugChecks a args text subscript

/-- The program, where there is room for a list of `room` elements. -/
def runWithin (room : Nat) (settings : Settings) (files : String → Except Fault StoredFile)
    (argv : List String) : Report :=
  match Arguments.read (Subscript.quoteNegativeSlices argv) with
  | .error r => .refuse r
  | .ok args => carryOut room settings files args

/-- The program. -/
def run (settings : Settings) (files : String → Except Fault StoredFile) (argv : List String) :
    Report :=
  runWithin View.listLimit settings files argv

end Strided.CommandLine
