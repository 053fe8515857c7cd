import LineCalc.Text.Blank

/-!
Texts in parts: fields between separators, and words between blanks.
-/
namespace LineCalc.Text

def fields (separates : Char → Bool) : List Char → List (List Char)
  | [] => [[]]
  | c :: r =>
    if separates c then [] :: fields separates r
    else
      match fields separates r with
      | [] => [[c]]
      | field :: rest => (c :: field) :: rest

def words (cs : List Char) : List (List Char) := (fields isBlank cs).filter (· ≠ [])

def trim (cs : List Char) : List Char :=
  ((cs.dropWhile isBlank).reverse.dropWhile isBlank).reverse

def tableWords (table : String) : List String :=
  (table.splitOn "\n").flatMap fun line => (line.splitOn " ").filter (· ≠ "")

end LineCalc.Text
