import LineCalc.Text.Split

/-!
Tables of names of characters in alphabetical order.
-/
namespace LineCalc.Text

/-- A table of names. Small letters in front of a word say how many characters of the name before it
go away, `a` none and `z` twenty-five of them; the rest of the word comes in their place. Low lines
stand for spaces. -/
structure NameTable where
  table : String

def nextName (previous : List Char) (word : String) : List Char :=
  let cs := word.toList
  let count := (cs.takeWhile Char.isLower).foldl (fun n c => n + (c.toNat - 'a'.toNat)) 0
  let added := (cs.dropWhile Char.isLower).map fun c => if c = '_' then ' ' else c
  added.reverse ++ previous.drop count

def comesAfter (name : List Char) : (previous : List Char) → List String → Bool
  | _, [] => false
  | previous, word :: rest =>
    let next := nextName previous word
    next = name || comesAfter name next rest

def NameTable.has (names : NameTable) (name : List Char) : Bool :=
  comesAfter name.reverse [] (tableWords names.table)

end LineCalc.Text
