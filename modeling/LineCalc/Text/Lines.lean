/-!
Lines of a text. A line feed, a carriage return or both in this order end a line, and the last line
need not be ended.
-/
namespace LineCalc.Text

def lines : List Char → List (List Char)
  | [] => []
  | '\r' :: '\n' :: r => [] :: lines r
  | '\r' :: r => [] :: lines r
  | '\n' :: r => [] :: lines r
  | c :: r =>
    match lines r with
    | [] => [[c]]
    | line :: rest => (c :: line) :: rest

end LineCalc.Text
