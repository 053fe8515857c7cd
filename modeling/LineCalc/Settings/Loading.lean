import LineCalc.Settings.Reading
import LineCalc.Toml.Document

/-!
Settings from a file. A file that was asked for must be there and be readable; the one in the current
directory is used if it is there, and passed over if it cannot be read.
-/
namespace LineCalc

def plainPath (path : String) : String :=
  let parts := (path.splitOn "/").filter fun part => part ≠ "" && part ≠ "."
  let root :=
    if path.startsWith "//" && !path.startsWith "///" then "//"
    else if path.startsWith "/" then "/"
    else ""
  if root = "" && parts.isEmpty then "." else root ++ "/".intercalate parts

inductive FileState where
  | absent
  | unreadable
  | content (bytes : ByteArray)

namespace Settings

structure Loaded where
  settings : Settings := {}
  /-- A file that was passed over. -/
  ignored? : Option String := none
  deriving DecidableEq, Repr

def defaultFile : String := "minicalc.toml"

inductive Decoded where
  | data (entries : Entries)
  | malformed
  | failed (error : SettingsError)

def decode (bytes : ByteArray) : Decoded :=
  match String.fromUTF8? bytes with
  | none => .failed .notText
  | some s =>
    match Toml.parse s with
    | .ok entries => .data entries
    | .error .malformed => .malformed
    | .error (.tooManyDigits digits) => .failed (.tooManyDigits digits)

def loadFile (path : String) : FileState → Except SettingsError Loaded
  | .absent => .error (.notFound path)
  | .unreadable => .error (.unreadable path)
  | .content bytes =>
    match decode bytes with
    | .data entries => (ofData path entries).map fun settings => { settings }
    | .malformed => .error (.unreadable path)
    | .failed error => .error error

def loadDefault (path : String) : FileState → Except SettingsError Loaded
  | .absent => .ok {}
  | .unreadable => .ok { ignored? := some path }
  | .content bytes =>
    match decode bytes with
    | .data entries => (ofData path entries).map fun settings => { settings }
    | .malformed => .ok { ignored? := some path }
    | .failed error => .error error

def filePath (directory : String) : Option String → String
  | some path => plainPath path
  | none => directory ++ "/" ++ defaultFile

def load (directory : String) (files : String → FileState) (asked? : Option String) :
    Except SettingsError Loaded :=
  let path := filePath directory asked?
  if asked?.isSome then loadFile path (files path) else loadDefault path (files path)

end Settings
end LineCalc
