/-!
Options among the arguments of a command. A long option may carry its value after a sign of equality,
a short one right after its letter; else the next argument is the value, whatever it looks like. Two
dashes end the options.
-/
namespace LineCalc.CommandLine

structure OptionSpec where
  name : String
  long : String
  short? : Option Char := none
  takesValue : Bool := false
  deriving DecidableEq, Repr

structure Given where
  name : String
  value : String := ""
  deriving DecidableEq, Repr

structure Split where
  given : List Given := []
  positional : List String := []
  deriving DecidableEq, Repr

def Split.addOption (option : Given) (split : Split) : Split :=
  { split with given := option :: split.given }

def Split.addPositional (argument : String) (split : Split) : Split :=
  { split with positional := argument :: split.positional }

def Split.value? (split : Split) (name : String) : Option String :=
  (split.given.reverse.find? (·.name == name)).map Given.value

def Split.has (split : Split) (name : String) : Bool := split.given.any (·.name == name)

def looksLikeOption (argument : String) : Bool :=
  argument.startsWith "-" && argument.length > 1

def cluster (specs : List OptionSpec) : List Char → Option (List Given × Option OptionSpec)
  | [] => some ([], none)
  | c :: r =>
    match specs.find? (·.short? == some c) with
    | none => none
    | some spec =>
      if !spec.takesValue then
        (cluster specs r).map fun (more, pending?) => ({ name := spec.name } :: more, pending?)
      else if r = [] then some ([], some spec)
      else some ([{ name := spec.name, value := String.ofList r }], none)

def optionsOf? (specs : List OptionSpec) (argument : String) :
    Option (List Given × Option OptionSpec) :=
  let cs := argument.toList
  let name := String.ofList (cs.takeWhile (· ≠ '='))
  let value? := (cs.dropWhile (· ≠ '=')).tail?
  match specs.find? (·.long == name) with
  | some spec =>
    match spec.takesValue, value? with
    | true, some value => some ([⟨spec.name, String.ofList value⟩], none)
    | true, none => some ([], some spec)
    | false, none => some ([{ name := spec.name }], none)
    | false, some _ => none
  | none => if argument.startsWith "--" then none else cluster specs (cs.drop 1)

/-- Splits arguments into options and the rest. With `mixed`, options may also stand after other
arguments. There is no result if an option is unknown or lacks its value. -/
def split (specs : List OptionSpec) (mixed : Bool) : List String → Option Split
  | [] => some {}
  | argument :: rest =>
    if argument = "--" then some { positional := rest }
    else if looksLikeOption argument then
      match optionsOf? specs argument, rest with
      | none, _ => none
      | some (given, none), rest =>
        (split specs mixed rest).map fun more => given.foldr Split.addOption more
      | some (_, some _), [] => none
      | some (given, some spec), value :: rest =>
        (split specs mixed rest).map fun more =>
          given.foldr Split.addOption (more.addOption ⟨spec.name, value⟩)
    else if mixed then (split specs mixed rest).map (Split.addPositional argument)
    else some { positional := argument :: rest }

end LineCalc.CommandLine
