import LineCalc.Data.Conversion
import LineCalc.Data.Written
import LineCalc.Settings.Section

/-!
Settings from the data of a configuration document. Problems are listed in the order of the settings,
then those with fields of other names in the order they came in.
-/
namespace LineCalc

def levelRefusal : String :=
  "log_level must be one of " ++ ", ".intercalate (Level.all.map Level.name)

def readLevel (data : Data) : Except Complaint Level := do
  let s ← data.readText
  match Level.ofText? s with
  | some level => .ok level
  | none => .error (.refused levelRefusal)

def fieldOr (name : String) (read : Data → Except Complaint α) (default : α) :
    Option Data → Checked α
  | none => .ok default
  | some data => checkField name (read data)

def extraFields (known : List String) (entries : Section.Named) : List Problem :=
  entries.filterMap fun entry =>
    match entry.1 with
    | .text name => if name ∈ known then none else some ⟨[name], .extraField⟩
    | name => some ⟨[name.written], .badFieldName⟩

namespace SessionSettings

def fields : List String := ["prompt", "show_tree", "color"]

def ofEntries (entries : Section.Named) : Checked SessionSettings :=
  let prompt := fieldOr "prompt" Data.readText "> " (Section.find? "prompt" entries)
  let showTree := fieldOr "show_tree" Data.readBool false (Section.find? "show_tree" entries)
  let color := fieldOr "color" Data.readBool true (Section.find? "color" entries)
  match prompt, showTree, color, extraFields fields entries with
  | .ok prompt, .ok showTree, .ok color, [] => .ok ⟨prompt, showTree, color⟩
  | _, _, _, extras => .error (prompt.problems ++ showTree.problems ++ color.problems ++ extras)

def ofData : Data → Checked SessionSettings
  | .table entries => ofEntries (entries.map fun entry => (.text entry.1, entry.2))
  | _ => .error [⟨[], .notTable⟩]

end SessionSettings

namespace Settings

def fields : List String := ["log_level", "repl"]

def ofEntries (entries : Section.Named) : Checked Settings :=
  let level := fieldOr "log_level" readLevel .warning (Section.find? "log_level" entries)
  let session : Checked SessionSettings :=
    match Section.find? "repl" entries with
    | none => .ok {}
    | some data => (SessionSettings.ofData data).mapError (·.map (Problem.under "repl"))
  match level, session, extraFields fields entries with
  | .ok level, .ok session, [] => .ok ⟨level, session⟩
  | _, _, extras => .error (level.problems ++ session.problems ++ extras)

def sections : List String := ["minicalc", "repl"]

def unknownSections (data : Entries) : List String :=
  ((data.map Prod.fst).filter fun name => name ∉ sections).mergeSort fun a b => decide (a ≤ b)

/-- The entries of the general section. The session's section, where there is one, stands for all
that the general section says of the session. -/
def overlaid (data : Entries) : Except SettingsError Section.Named := do
  let general ← Section.ofData ((data.lookup "minicalc").getD (.table []))
  match data.lookup "repl" with
  | some session => return Section.put (.text "repl") session general
  | none => return general

def ofData (path : String) (data : Entries) : Except SettingsError Settings := do
  let entries ← overlaid data
  if unknownSections data ≠ [] then
    .error (.unknownSections path (unknownSections data))
  else (ofEntries entries).mapError (.invalid path)

end Settings
end LineCalc
