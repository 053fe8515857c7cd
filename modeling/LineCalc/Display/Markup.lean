import LineCalc.Display.Action
import LineCalc.Display.Emoji
import LineCalc.Display.Style
import LineCalc.Display.Tone

/-!
Texts may hold tags in square brackets that set a style, or name an action, until they are closed. A
backslash before a bracket makes it plain text.
-/
namespace LineCalc.Display.Markup

inductive MarkupError where
  | unmatched (tag : String) (position : Nat)
  | nothingToClose (position : Nat)
  | action (error : ActionError)
  | badNumber (fault : BadNumber)
  deriving DecidableEq, Repr

def MarkupError.message : MarkupError → String
  | unmatched tag position =>
    "closing tag '[" ++ tag ++ "]' at position " ++ toString position ++
      " doesn't match any open tag"
  | nothingToClose position =>
    "closing tag '[/]' at position " ++ toString position ++ " has nothing to close"
  | action error => error.message
  | badNumber fault => fault.message

inductive Piece where
  | text (cs : List Char)
  | tag (cs : List Char) (position : Nat)
  deriving DecidableEq, Repr

def startsTag (c : Char) : Bool := ('a' ≤ c && c ≤ 'z') || c = '#' || c = '/' || c = '@'

def tag? : List Char → Option (List Char × List Char)
  | c :: r =>
    if startsTag c then
      let inner := r.takeWhile fun d => d ≠ '[' && d ≠ ']'
      match r.dropWhile fun d => d ≠ '[' && d ≠ ']' with
      | ']' :: rest => some (c :: inner, rest)
      | _ => none
    else none
  | [] => none

/-- A tag after so many backslashes: each two of them stand for one, and one left over makes the tag
plain text. -/
def tagPieces (slashes : Nat) (inner : List Char) (position : Nat) : List Piece :=
  let kept := if slashes / 2 = 0 then [] else [.text (List.replicate (slashes / 2) '\\')]
  if slashes % 2 = 1 then kept ++ [.text ('[' :: inner ++ [']'])]
  else kept ++ [.tag inner (position + slashes)]

/-- Splits a text into pieces; `plain` is what stands before the current place. Every round takes a
character. -/
def pieces : (rounds : Nat) → (position : Nat) → (plain : List Char) → List Char → List Piece
  | 0, _, plain, _ => [.text plain]
  | _, _, plain, [] => [.text plain]
  | rounds + 1, position, plain, c :: r =>
    let slashes := (c :: r).takeWhile (· = '\\')
    let after := (c :: r).dropWhile (· = '\\')
    match after with
    | '[' :: inside =>
      match tag? inside with
      | some (inner, rest) =>
        let next := position + slashes.length + inner.length + 2
        [.text plain] ++ tagPieces slashes.length inner position ++ pieces rounds next [] rest
      | none =>
        pieces rounds (position + slashes.length + 1) (plain ++ slashes ++ ['[']) inside
    | [] => [.text (plain ++ slashes)]
    | d :: rest => pieces rounds (position + slashes.length + 1) (plain ++ slashes ++ [d]) rest

def unescape : List Char → List Char
  | '\\' :: '[' :: r => '[' :: unescape r
  | c :: r => c :: unescape r
  | [] => []

def plainText (cs : List Char) : List Char := (drawEmoji (unescape cs)).filter fun c => !isDropped c

structure OpenTag where
  name : List Char
  parameters? : Option (List Char)
  start : Nat
  deriving DecidableEq, Repr

def OpenTag.style (tag : OpenTag) : List Char :=
  tag.name ++ (tag.parameters?.elim [] fun parameters => ' ' :: parameters)

def OpenTag.isAction (tag : OpenTag) : Bool := tag.name.head? = some '@'

structure Span where
  start : Nat
  stop : Nat
  style : List Char
  deriving DecidableEq, Repr

/-- A text that has been read so far; of the open tags the innermost comes first. -/
structure Marked where
  text : List Char := []
  opened : List OpenTag := []
  spans : List Span := []
  deriving DecidableEq, Repr

namespace Marked

def spanOf (marked : Marked) (tag : OpenTag) : Span := ⟨tag.start, marked.text.length, tag.style⟩

def finish (marked : Marked) (tag : OpenTag) (opened : List OpenTag) :
    Except MarkupError Marked :=
  if tag.isAction then
    match tag.parameters?.getD [] with
    | [] => .ok { marked with opened }
    | action => ((checkAction action).mapError .action).map fun _ => { marked with opened }
  else .ok { marked with opened, spans := marked.spanOf tag :: marked.spans }

def take? (name : List Char) : List OpenTag → Option (OpenTag × List OpenTag)
  | [] => none
  | tag :: rest =>
    if tag.name = name then some (tag, rest)
    else (take? name rest).map fun (found, others) => (found, tag :: others)

def close (marked : Marked) (inner : List Char) (position : Nat) : Except MarkupError Marked :=
  match Text.trim (inner.takeWhile (· ≠ '=')), marked.opened with
  | [], [] => .error (.nothingToClose position)
  | [], tag :: opened => marked.finish tag opened
  | name, opened => do
    let normal ← (Style.normalize name).mapError .badNumber
    match take? normal opened with
    | some (tag, others) => marked.finish tag others
    | none => throw (.unmatched (String.ofList ('/' :: inner)) position)

def openTag (marked : Marked) (inner : List Char) : Except MarkupError Marked := do
  let name ← (Style.normalize (inner.takeWhile (· ≠ '='))).mapError .badNumber
  let parameters? := match inner.dropWhile (· ≠ '=') with
    | [] => none
    | _ :: parameters => some parameters
  return { marked with opened := ⟨name, parameters?, marked.text.length⟩ :: marked.opened }

def add (marked : Marked) : Piece → Except MarkupError Marked
  | .text cs => .ok { marked with text := marked.text ++ plainText cs }
  | .tag ('/' :: inner) position => marked.close inner position
  | .tag inner _ => marked.openTag inner

def allSpans (marked : Marked) : List Span := marked.opened.map marked.spanOf ++ marked.spans

end Marked

def read (cs : List Char) : Except MarkupError Marked :=
  (pieces (cs.length + 1) 0 [] cs).foldlM Marked.add {}

end LineCalc.Display.Markup
