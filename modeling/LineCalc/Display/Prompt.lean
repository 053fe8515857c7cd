import LineCalc.Display.Markup
import LineCalc.Text.Width

/-!
Prompts as they are shown where there are no colours: the tags of their markup only vanish.
-/
namespace LineCalc.Display.Prompt
open Markup

/-- Segments between tabs. A tab reaches to the next multiple of eight columns, and at least one
further. -/
def tabbed (column : Nat) : List (List Char) → List Char
  | [] => []
  | [last] => last
  | segment :: rest =>
    let filled := segment ++ [' ']
    let reached := column + Text.charsWidth filled
    let stop := (reached + 7) / 8 * 8
    filled ++ List.replicate (stop - reached) ' ' ++ tabbed stop rest

def expandTabs (cs : List Char) : List Char :=
  let lines := Text.fields (· = '\n') cs
  ['\n'].intercalate (lines.map fun line => tabbed 0 (Text.fields (· = '\t') line))

/-- A span that covers no character of a line is lost when the text is split. -/
def isDrawn (text : List Char) (span : Span) : Bool :=
  let isSplit := text.any fun c => c = '\n' || c = '\t'
  !isSplit || ((text.take span.stop).drop span.start).any (· ≠ '\n')

/-- Descriptions of no style are passed over, but not those that cannot be read. -/
def checkSpan (span : Span) : Except MarkupError Unit :=
  match Style.ofText span.style with
  | .error (.badNumber fault) => .error (.badNumber fault)
  | _ => .ok ()

def checkSpans : List Span → Except MarkupError Unit
  | [] => .ok ()
  | span :: rest => do checkSpan span; checkSpans rest

def plain (prompt : String) : Except MarkupError String := do
  let marked ← Markup.read prompt.toList
  checkSpans (marked.allSpans.filter (isDrawn marked.text))
  return String.ofList (expandTabs marked.text)

end LineCalc.Display.Prompt
