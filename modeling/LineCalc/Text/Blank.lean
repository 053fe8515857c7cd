import LineCalc.Text.CharRanges

/-!
Blank characters: white space of Unicode 14 by its bidirectional class or as a separator, with the
four information separators U+001C to U+001F.
-/
namespace LineCalc.Text

def blanks : CharRanges := ⟨[
  (0x9, 0xd), (0x1c, 0x20), (0x85, 0x85), (0xa0, 0xa0), (0x1680, 0x1680), (0x2000, 0x200a),
  (0x2028, 0x2029), (0x202f, 0x202f), (0x205f, 0x205f), (0x3000, 0x3000)]⟩

def isBlank (c : Char) : Bool := blanks.has c

def allBlank (s : String) : Bool := s.toList.all isBlank

end LineCalc.Text
