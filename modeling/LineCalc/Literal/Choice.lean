import LineCalc.Literal.Expression
import LineCalc.Literal.Token
import Std.Data.HashMap

/-!
Reading tokens by ordered choice: the first alternative that fits is taken. Alternatives that only
look for likely mistakes are tried when there are hints to be given. What a rule has read at a place
is remembered.
-/
namespace LineCalc.Literal

inductive Rule where
  | expression
  | starExpression
  | disjunction
  | conjunction
  | inversion
  | comparison
  /-- Operators of one of the levels of `operators`, and all that bind closer. -/
  | operation (level : Nat)
  | factor
  | awaited
  | primary
  | atom
  | texts
  | group
  | generator
  | arguments
  | misassignment
  | loopTarget
  | simpleTarget
  | targetBase
  deriving DecidableEq, Hashable, Repr

/-- Whether a rule is remembered with hints as it was read without them. -/
def Rule.isShared : Rule → Bool
  | comparison | atom | group | generator => false
  | _ => true

structure Source where
  tokens : Array Token
  texts : List WrittenText → Except Flaw Expression
  /-- What becomes of a flaw that is found by reading. -/
  own : Flaw → Flaw

/-- What is remembered, and how many tokens have been looked at. -/
structure Memory where
  found : Std.HashMap (Rule × Nat × Bool) (Option (Expression × Nat)) := ∅
  reached : Nat := 0

inductive Outcome (α : Type) where
  /-- A value and the place after it. -/
  | read (value : α) (next : Nat)
  /-- Another alternative may fit. -/
  | miss
  /-- No other alternative counts. -/
  | stop
  | flaw (flaw : Flaw)

/-- A way to read at a place, with or without hints. -/
def Reader (α : Type) : Type := Source → (hints : Bool) → Nat → Memory → Outcome α × Memory

namespace Reader

variable {α β : Type}

instance : Monad Reader where
  pure value := fun _ _ place memory => (.read value place, memory)
  bind first further := fun source hints place memory =>
    match first source hints place memory with
    | (.read value next, memory) => further value source hints next memory
    | (.miss, memory) => (.miss, memory)
    | (.stop, memory) => (.stop, memory)
    | (.flaw flaw, memory) => (.flaw flaw, memory)

def orElse (first : Reader α) (second : Unit → Reader α) : Reader α :=
  fun source hints place memory =>
    match first source hints place memory with
    | (.miss, memory) => second () source hints place memory
    | result => result

instance : OrElse (Reader α) := ⟨orElse⟩

def miss : Reader α := fun _ _ _ memory => (.miss, memory)

def stop : Reader α := fun _ _ _ memory => (.stop, memory)

def refuse (flaw : Flaw) : Reader α := fun source _ _ memory => (.flaw (source.own flaw), memory)

def committed (reader : Reader α) : Reader α := reader <|> stop

def settled (reader : Reader α) : Reader α := fun source hints place memory =>
  match reader source hints place memory with
  | (.stop, memory) => (.miss, memory)
  | result => result

/-- An alternative that counts only when hints are given. -/
def hint (reader : Reader α) : Reader α := fun source hints place memory =>
  if hints then reader source hints place memory else (.miss, memory)

def withoutHints (reader : Reader α) : Reader α := fun source _ place memory =>
  reader source false place memory

/-! ### Tokens -/

def look : Reader Token := fun source _ place memory =>
  let memory := { memory with reached := max memory.reached (place + 1) }
  match source.tokens[place]? with
  | none => (.miss, memory)
  | some token =>
    match token.kind with
    | .flawed flaw => (.flaw flaw, memory)
    | .halted flaw _ => (.flaw (source.own flaw), memory)
    | _ => (.read token place, memory)

def lookBack : Reader (Option Token) := fun source _ place memory =>
  (.read (if place = 0 then none else source.tokens[place - 1]?) place, memory)

def advance : Reader Unit := fun _ _ place memory => (.read () (place + 1), memory)

def token (select : Kind → Option α) : Reader α := do
  match select (← look).kind with
  | some value => do advance; return value
  | none => miss

def kind (wanted : Kind) : Reader Unit :=
  token fun kind => if kind = wanted then some () else none

def mark (sign : String) : Reader Unit := kind (.mark sign)

def name : Reader (List Char) := token fun
  | .name cs => some cs
  | _ => none

def text : Reader WrittenText := token fun
  | .text text => some text
  | _ => none

def oneOf (signs : List String) : Reader String := token fun
  | .mark sign => if sign ∈ signs then some sign else none
  | _ => none

/-! ### Lookahead and repetition -/

def ahead (reader : Reader α) : Reader Unit := fun source hints place memory =>
  match reader source hints place memory with
  | (.read _ _, memory) => (.read () place, memory)
  | (.flaw flaw, memory) => (.flaw flaw, memory)
  | (_, memory) => (.miss, memory)

def notAhead (reader : Reader α) : Reader Unit := fun source hints place memory =>
  match reader source hints place memory with
  | (.read _ _, memory) => (.miss, memory)
  | (.flaw flaw, memory) => (.flaw flaw, memory)
  | (_, memory) => (.read () place, memory)

def optional (reader : Reader α) : Reader (Option α) := (some <$> settled reader) <|> pure none

def extend (step : α → Reader α) (value : α) : Reader α := fun source hints place memory =>
  go source hints (source.tokens.size + 1) value place memory
where
  go (source : Source) (hints : Bool) : Nat → α → Nat → Memory → Outcome α × Memory
    | 0, value, place, memory => (.read value place, memory)
    | rounds + 1, value, place, memory =>
      match step value source hints place memory with
      | (.read value next, memory) => go source hints rounds value next memory
      | (.flaw flaw, memory) => (.flaw flaw, memory)
      | (_, memory) => (.read value place, memory)

def many (item : Reader α) : Reader (List α) := do
  return (← extend (fun found => return (← item) :: found) []).reverse

def atLeastOne (item : Reader α) : Reader (List α) := do
  let first ← item
  return first :: (← many item)

def separated (item : Reader α) : Reader (List α) := do
  let first ← item
  return first :: (← many do mark ","; item)

/-! ### Memory -/

/-- What a rule reads is remembered for its place. -/
def remembered (rule : Rule) (reader : Reader Expression) : Reader Expression :=
  fun source hints place memory =>
    let key := (rule, place, hints && !rule.isShared)
    match memory.found[key]? with
    | some (some (value, next)) => (.read value next, memory)
    | some none => (.miss, memory)
    | none =>
      let keep (found : Option (Expression × Nat)) (memory : Memory) : Memory :=
        { memory with found := memory.found.insert key found }
      match settled reader source hints place memory with
      | (.read value next, memory) => (.read value next, keep (some (value, next)) memory)
      | (.flaw flaw, memory) => (.flaw flaw, memory)
      | (_, memory) => (.miss, keep none memory)

end Reader
end LineCalc.Literal
