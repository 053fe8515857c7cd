import LineCalc.Text.CharName.AToB
import LineCalc.Text.CharName.CToD
import LineCalc.Text.CharName.EToL
import LineCalc.Text.CharName.MToR
import LineCalc.Text.CharName.SToZ
import LineCalc.Text.CharRanges

/-!
Names of characters in Unicode 14, aliases among them. Hangul syllables and unified ideographs have
names by rule.
-/
namespace LineCalc.Text

/-! ### Names by rule -/

def hangulInitials : List String :=
  ["", "G", "GG", "N", "D", "DD", "R", "M", "B", "BB", "S", "SS", "J", "JJ", "C", "K", "T", "P",
    "H"]

def hangulMedials : List String :=
  ["A", "AE", "YA", "YAE", "EO", "E", "YEO", "YE", "O", "WA", "WAE", "OE", "YO", "U", "WEO", "WE",
    "WI", "YU", "EU", "YI", "I"]

def hangulFinals : List String :=
  ["", "G", "GG", "GS", "N", "NJ", "NH", "D", "L", "LG", "LM", "LB", "LS", "LT", "LP", "LH", "M",
    "B", "BS", "S", "SS", "NG", "J", "C", "K", "T", "P", "H"]

def afterLongest? (parts : List String) (cs : List Char) : Option (List Char) :=
  let fitting := parts.filter fun part => part.toList.isPrefixOf cs
  fitting.head?.map fun first =>
    cs.drop (fitting.foldl (fun n part => max n part.length) first.length)

def isHangulSyllable (cs : List Char) : Bool :=
  let rest? := do afterLongest? hangulFinals (← afterLongest? hangulMedials
    (← afterLongest? hangulInitials cs))
  rest? = some []

def unifiedIdeographs : CharRanges := ⟨[
  (0x3400, 0x4dbf), (0x4e00, 0x9fff), (0x20000, 0x2a6df), (0x2a700, 0x2b738), (0x2b740, 0x2b81d),
  (0x2b820, 0x2cea1), (0x2ceb0, 0x2ebe0), (0x30000, 0x3134a)]⟩

def capitalHexDigit? (c : Char) : Option Nat :=
  if '0' ≤ c && c ≤ '9' then some (c.toNat - '0'.toNat)
  else if 'A' ≤ c && c ≤ 'F' then some (c.toNat - 'A'.toNat + 10)
  else none

def isIdeographNumber (cs : List Char) : Bool :=
  match cs.mapM capitalHexDigit? with
  | none => false
  | some digits =>
    (digits.length = 4 || digits.length = 5) &&
      unifiedIdeographs.has (Char.ofNat (digits.foldl (fun n d => 16 * n + d) 0))

/-! ### All names -/

def nameTables : List (Char × NameTable) :=
  [('B', namesAToB), ('D', namesCToD), ('L', namesEToL), ('R', namesMToR), ('Z', namesSToZ)]

def isListedName (cs : List Char) : Bool :=
  match cs with
  | [] => false
  | first :: _ => (nameTables.find? (first ≤ ·.1)).any (·.2.has cs)

def after? (front : String) (cs : List Char) : Option (List Char) :=
  if front.toList.isPrefixOf cs then some (cs.drop front.length) else none

/-- Whether a character has the name. Small letters count only in names by rule. -/
def isCharName (cs : List Char) : Bool :=
  match after? "HANGUL SYLLABLE " cs, after? "CJK UNIFIED IDEOGRAPH-" cs with
  | some syllable, _ => isHangulSyllable syllable
  | _, some number => isIdeographNumber number
  | none, none => isListedName (cs.map Char.toUpper)

end LineCalc.Text
