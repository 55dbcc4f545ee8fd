import Remittance.Text.LetterCase
import Remittance.Text.Numeral

/-!
# Settings

The settings that the environment gives, each with a default for a variable that is not set.
Variables as they are supplied may be such that no environment holds them.
-/

namespace Remittance

/-- The settings of the service. -/
structure Settings where
  logLevel : String
  host : String
  port : Int
  debug : Bool
deriving Repr, DecidableEq

namespace Settings

/-- The text reads `true` in any letter case. -/
def isTrue (text : String) : Bool :=
  text.toList.map Text.lower == "true".toList

/-- The settings that the variables of an environment give. A port that is no integer is a
fault. -/
def ofEnvironment (environment : List (String × String)) : Except Fault Settings :=
  let setting (name fallback : String) := (environment.lookup name).getD fallback
  (Text.readInteger (setting "API_PORT" "8000")).map fun port =>
    { logLevel := Text.upperCase (setting "LOG_LEVEL" "INFO")
      host := setting "API_HOST" "0.0.0.0"
      port := port
      debug := isTrue (setting "DEBUG" "False") }

/-- The fault of a variable that no environment holds. -/
def variableFault? (name : String) : Value → Option Fault
  | .text value =>
      if name.toList.contains '\x00' || value.toList.contains '\x00' then some .nullCharacter
      else if name.toList.contains '=' then some .badVariable
      else if name.isEmpty then some .unnamedVariable
      else none
  | value => some (.notVariable value.typeName)

/-- The settings that supplied variables give. The first variable that no environment holds is
reported. -/
def ofSupplied (entries : List (String × Value)) : Except Fault Settings :=
  match entries.findSome? fun entry => variableFault? entry.1 entry.2 with
  | some fault => .error fault
  | none => ofEnvironment (entries.map fun entry => (entry.1, entry.2.asText))

end Settings

end Remittance
