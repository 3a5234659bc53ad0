import Strided.Fault
import Strided.Text.Blank
import Strided.Text.Uppercase

/-!
# Settings

Two variables of the environment are looked at: one names the level from which records are shown,
the other turns the checks of linear indices on or off.
-/

namespace Strided

/-- The settings of the library. -/
structure Settings where
  logLevel : String
  debugChecks : Bool
  deriving DecidableEq, Repr

/-- How records are shown: those of a level and above, in a format. -/
structure Logging where
  level : Nat
  format : String
  deriving DecidableEq, Repr

namespace Settings

def logLevelVariable : String := "STRIDEBIN_LOG_LEVEL"

def debugChecksVariable : String := "STRIDEBIN_DEBUG_CHECKS"

def default : Settings := ⟨"WARNING", true⟩

/-- A flag is off for four words, in letters of either case and with blanks around them, and on for
everything else.  No character outside ASCII is a form of one of their letters. -/
def flag (s : String) : Bool :=
  let word := String.ofList ((Text.strip s.toList).map Char.toLower)
  !(["0", "false", "no", "off"].contains word)

def ofEnvironment (lookup : String → Option String) : Settings where
  logLevel := Text.upper ((lookup logLevelVariable).getD default.logLevel)
  debugChecks := ((lookup debugChecksVariable).map flag).getD default.debugChecks

/-- How records are shown under the settings. -/
def logging (s : Settings) : Except Fault Logging :=
  match Log.Level.ofName? s.logLevel with
  | some level => .ok ⟨level.number, "%(asctime)s - %(name)s - %(levelname)s - %(message)s"⟩
  | none => .error (.unknownLevel s.logLevel)

end Settings

end Strided
