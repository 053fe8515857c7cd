import LineCalc.Display.EmojiNames
import LineCalc.Text.LowerCase
import LineCalc.Text.Split

/-!
Emoji in a text: a name between colons stands for the emoji. After the name a hyphen and a word may
choose how it is drawn.
-/
namespace LineCalc.Display

def presentations : List (String × Char) := [("-emoji", '\ufe0f'), ("-text", '\ufe0e')]

def codeParts (code : List Char) : List Char × List Char :=
  match presentations.find? fun p => p.1.toList.isSuffixOf code with
  | some (ending, selector) => (code.take (code.length - ending.length), [selector])
  | none => (code, [])

def drawnCode (code : List Char) : List Char :=
  let (name, selector) := codeParts code
  match emoji? (String.ofList (Text.lowerCase name)) with
  | some drawn => drawn.toList ++ selector
  | none => ':' :: code ++ [':']

/-- Fields after a colon that may open a code. A code holds no blank, and its closing colon opens no
other one. -/
def drawnFields : List (List Char) → List Char
  | [] => []
  | [last] => ':' :: last
  | code :: next :: rest =>
    if code.any Text.isBlank then ':' :: code ++ drawnFields (next :: rest)
    else drawnCode code ++ next ++ drawnFields rest

def drawEmoji (cs : List Char) : List Char :=
  match Text.fields (· = ':') cs with
  | [] => []
  | first :: rest => first ++ drawnFields rest

end LineCalc.Display
