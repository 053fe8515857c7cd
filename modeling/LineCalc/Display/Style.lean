import LineCalc.Display.Color

/-!
Styles described by words: attributes, what is not an attribute, a colour, a colour behind the text
and a link. Descriptions of the same style have one normal form.
-/
namespace LineCalc.Display

inductive Attribute where
  | bold
  | dim
  | italic
  | underline
  | blink
  | rapidBlink
  | reverse
  | conceal
  | strike
  | doubleUnderline
  | frame
  | encircle
  | overline
  deriving DecidableEq, Repr

namespace Attribute

def all : List Attribute := [bold, dim, italic, underline, blink, rapidBlink, reverse, conceal,
  strike, doubleUnderline, frame, encircle, overline]

def name : Attribute → String
  | bold => "bold"
  | dim => "dim"
  | italic => "italic"
  | underline => "underline"
  | blink => "blink"
  | rapidBlink => "blink2"
  | reverse => "reverse"
  | conceal => "conceal"
  | strike => "strike"
  | doubleUnderline => "underline2"
  | frame => "frame"
  | encircle => "encircle"
  | overline => "overline"

def shortNames : List (String × Attribute) :=
  [("b", bold), ("d", dim), ("i", italic), ("u", underline), ("r", reverse), ("c", conceal),
    ("s", strike), ("uu", doubleUnderline), ("o", overline)]

def ofWord? (word : List Char) : Option Attribute :=
  let text := String.ofList word
  (all.find? (·.name == text)).or (shortNames.lookup text)

end Attribute

structure Style where
  setting? : Attribute → Option Bool := fun _ => none
  color? : Option (List Char) := none
  background? : Option (List Char) := none
  link? : Option (List Char) := none

namespace Style

def set (style : Style) (a : Attribute) (on : Bool) : Style :=
  { style with setting? := fun b => if b = a then some on else style.setting? b }

def withWords (style : Style) : List (List Char) → Except StyleFault Style
  | [] => .ok style
  | [word] => withWord style (Text.lowerCase word)
  | word :: next :: rest =>
    match String.ofList (Text.lowerCase word) with
    | "on" => do withWords { style with background? := some (← Color.ofWord next) } rest
    | "not" =>
      match Attribute.ofWord? next with
      | some a => withWords (style.set a false) rest
      | none => .error .unknown
    | "link" => withWords { style with link? := some next } rest
    | lowered => do withWords (← withWord style lowered.toList) (next :: rest)
where
  /-- An attribute or else a colour; a later colour counts. -/
  withWord (style : Style) (word : List Char) : Except StyleFault Style :=
    match Attribute.ofWord? word with
    | some a => .ok (style.set a true)
    | none => do return { style with color? := some (← Color.ofWord word) }

def ofText (cs : List Char) : Except StyleFault Style :=
  if Text.trim cs = "none".toList then .ok {} else withWords {} (Text.words cs)

def attributeWords (style : Style) (a : Attribute) : List (List Char) :=
  match style.setting? a with
  | none => []
  | some true => [a.name.toList]
  | some false => ["not".toList, a.name.toList]

def words (style : Style) : List (List Char) :=
  Attribute.all.flatMap style.attributeWords ++ style.color?.toList ++
    (style.background?.elim [] fun color => ["on".toList, color]) ++
    (style.link?.elim [] fun link => ["link".toList, link])

def text (style : Style) : List Char :=
  match style.words with
  | [] => "none".toList
  | words => [' '].intercalate words

/-- The normal form of a description. What describes no style is only put in small letters. -/
def normalize (cs : List Char) : Except BadNumber (List Char) :=
  match ofText cs with
  | .ok style => .ok style.text
  | .error .unknown => .ok (Text.lowerCase (Text.trim cs))
  | .error (.badNumber fault) => .error fault

end Style
end LineCalc.Display
