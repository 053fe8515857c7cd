import LineCalc.Data.Problem
import LineCalc.Numeral
import LineCalc.Settings.Level

/-!
The settings of the calculator, and what can go wrong while they are read.
-/
namespace LineCalc

structure SessionSettings where
  prompt : String := "> "
  showTree : Bool := false
  color : Bool := true
  deriving DecidableEq, Repr

structure Settings where
  level : Level := .warning
  session : SessionSettings := {}
  deriving DecidableEq, Repr

/-- The level of the log: the first of the override, the environment and the settings that names a
level. -/
def Settings.resolvedLevel (settings : Settings) (override environment : Option String) : Level :=
  ((override.bind Level.ofText?).or (environment.bind Level.ofText?)).getD settings.level

inductive SettingsError where
  | notFound (path : String)
  | unreadable (path : String)
  | unknownSections (path : String) (names : List String)
  | invalid (path : String) (problems : List Problem)
  /-- The section is of a type that holds no entries. -/
  | noEntries (typeName : String)
  /-- An item of the section is no pair. -/
  | notAPair (index : Nat)
  | pairLength (index length : Nat)
  | badName (typeName : String)
  | notText
  | tooManyDigits (digits : Nat)
  deriving DecidableEq, Repr

namespace SettingsError

/-- Whether the error is a complaint about the configuration and not a fault of the program. -/
def isConfigurationError : SettingsError → Bool
  | notFound _ | unreadable _ | unknownSections .. | invalid .. => true
  | _ => false

/-- What an error says. Behind the path of an unreadable file or of invalid settings there is left out
what the reader of the document, or the check of the settings, says after a colon. -/
def message : SettingsError → String
  | notFound path => "Config file not found: " ++ path
  | unreadable path => "Cannot read config file " ++ path
  | unknownSections path names => "Unknown section(s) in " ++ path ++ ": " ++ ", ".intercalate names
  | invalid path _ => "Invalid configuration in " ++ path
  | noEntries typeName => "'" ++ typeName ++ "' object is not iterable"
  | notAPair index =>
    "cannot convert dictionary update sequence element #" ++ toString index ++ " to a sequence"
  | pairLength index length =>
    "dictionary update sequence element #" ++ toString index ++ " has length " ++ toString length ++
      "; 2 is required"
  | badName typeName => "unhashable type: '" ++ typeName ++ "'"
  | notText => "invalid UTF-8"
  | tooManyDigits digits => Numeral.tooLongMessage digits

end SettingsError
end LineCalc
