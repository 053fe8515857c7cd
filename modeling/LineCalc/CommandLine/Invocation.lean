import LineCalc.CommandLine.Options

/-!
What the arguments of the program ask for.
-/
namespace LineCalc.CommandLine

structure GeneralOptions where
  config? : Option String := none
  logLevel? : Option String := none
  noColor : Bool := false
  deriving DecidableEq, Repr

inductive Command where
  | repl (showTree? : Option Bool) (prompt? : Option String)
  | eval (expression : String) (showTree : Bool)
  | tokens (expression : String)
  deriving DecidableEq, Repr

/-- A command may be known while its arguments are wrong; the settings are then read all the same. -/
inductive Invocation where
  | misused
  | version
  | start (options : GeneralOptions) (command? : Option Command)
  deriving DecidableEq, Repr

def generalSpecs : List OptionSpec :=
  [{ name := "config", long := "--config", short? := some 'c', takesValue := true },
    { name := "log-level", long := "--log-level", takesValue := true },
    { name := "no-color", long := "--no-color" }, { name := "version", long := "--version" }]

def replSpecs : List OptionSpec :=
  [{ name := "show-tree", long := "--show-tree" }, { name := "hide-tree", long := "--hide-tree" },
    { name := "prompt", long := "--prompt", takesValue := true }]

def evalSpecs : List OptionSpec := [{ name := "show-tree", long := "--show-tree" }]

def lastSwitch? (on off : String) (split : Split) : Option Bool :=
  (split.given.reverse.find? fun given => given.name == on || given.name == off).map (·.name == on)

def replCommand? (arguments : List String) : Option Command := do
  let split ← split replSpecs true arguments
  if split.positional.isEmpty then
    some (.repl (lastSwitch? "show-tree" "hide-tree" split) (split.value? "prompt"))
  else none

def evalCommand? (arguments : List String) : Option Command := do
  let split ← split evalSpecs true arguments
  match split.positional with
  | [expression] => some (.eval expression (split.has "show-tree"))
  | _ => none

def tokensCommand? (arguments : List String) : Option Command := do
  let split ← split [] true arguments
  match split.positional with
  | [expression] => some (.tokens expression)
  | _ => none

def commands : List (String × (List String → Option Command)) :=
  [("repl", replCommand?), ("eval", evalCommand?), ("tokens", tokensCommand?)]

def generalOptions (split : Split) : GeneralOptions :=
  { config? := split.value? "config"
    logLevel? := split.value? "log-level"
    noColor := split.has "no-color" }

/-- An unknown command that looks like an option is tried as one, for the version alone. -/
def unknownCommand (arguments : List String) : Invocation :=
  match split generalSpecs false arguments with
  | some split => if split.has "version" then .version else .misused
  | none => .misused

def Invocation.ofArguments (arguments : List String) : Invocation :=
  match split generalSpecs false arguments with
  | none => .misused
  | some split =>
    if split.has "version" then .version
    else
      match split.positional with
      | [] => .start (generalOptions split) (some (.repl none none))
      | name :: rest =>
        match commands.lookup name with
        | some read => .start (generalOptions split) (read rest)
        | none => unknownCommand (name :: rest)

end LineCalc.CommandLine
