import LineCalc.Data.Value
import LineCalc.Numeral
import LineCalc.Toml.Text

/-!
Numbers, dates and times of a TOML document.
-/
namespace LineCalc.Toml

/-- A run of digits that single underscores may separate. Nothing is read of what does not begin with
a digit. -/
def digitRun (isDigit : Char → Bool) : List Char → List Char × List Char
  | [] => ([], [])
  | [c] => if isDigit c then ([c], []) else ([], [c])
  | c :: '_' :: d :: r =>
    if isDigit c then
      if isDigit d then
        let (digits, rest) := digitRun isDigit (d :: r)
        (c :: digits, rest)
      else ([c], '_' :: d :: r)
    else ([], c :: '_' :: d :: r)
  | c :: d :: r =>
    if isDigit c then
      let (digits, rest) := digitRun isDigit (d :: r)
      (c :: digits, rest)
    else ([], c :: d :: r)

def isDigit (c : Char) : Bool := '0' ≤ c && c ≤ '9'

def valueIn (base : Nat) (digits : List Char) : Nat :=
  digits.foldl (fun n c => base * n + (hexValue? c).getD 0) 0

def basedInt? : List Char → Option (Nat × List Char)
  | 'x' :: r => digits? 16 (fun c => (hexValue? c).isSome) r
  | 'o' :: r => digits? 8 (fun c => '0' ≤ c && c ≤ '7') r
  | 'b' :: r => digits? 2 (fun c => c = '0' || c = '1') r
  | _ => none
where
  digits? (base : Nat) (isDigit : Char → Bool) (cs : List Char) : Option (Nat × List Char) :=
    match digitRun isDigit cs with
    | ([], _) => none
    | (digits, rest) => some (valueIn base digits, rest)

/-- The whole part of a decimal number: zero, or digits that do not begin with one. -/
def wholePart? : List Char → Option (List Char × List Char)
  | '0' :: r => some (['0'], r)
  | c :: r => if isDigit c then some (digitRun isDigit (c :: r)) else none
  | [] => none

def fractionPart : List Char → List Char × List Char
  | '.' :: r =>
    match digitRun isDigit r with
    | ([], _) => ([], '.' :: r)
    | read => read
  | cs => ([], cs)

def signOf : List Char → Bool × List Char
  | '-' :: r => (true, r)
  | '+' :: r => (false, r)
  | cs => (false, cs)

def exponentPart? (cs : List Char) : Option (Int × List Char) :=
  match cs with
  | c :: r =>
    if c = 'e' || c = 'E' then
      let (negative, r) := signOf r
      match digitRun isDigit r with
      | ([], _) => none
      | (digits, rest) =>
        let n : Int := Numeral.value digits
        some (if negative then -n else n, rest)
    else none
  | [] => none

/-- A number in decimal digits: an integer, unless a fraction or a power of ten follows. -/
def decimal? (cs : List Char) : Option (Except Error (Part Data)) :=
  let (negative, unsigned) := signOf cs
  match wholePart? unsigned with
  | none => none
  | some (whole, afterWhole) =>
    let (fraction, afterFraction) := fractionPart afterWhole
    match fraction, exponentPart? afterFraction with
    | [], none =>
      some <|
        if whole.length ≤ Numeral.maxDigits then
          let n : Int := Numeral.value whole
          .ok (.int (if negative then -n else n), afterFraction)
        else .error (.tooManyDigits whole.length)
    | _, power? =>
      let (power, rest) := power?.getD (0, afterFraction)
      let significand := Numeral.value (whole ++ fraction)
      some (.ok (.float (.ofDecimal negative significand (power - fraction.length)), rest))

def number? (cs : List Char) : Option (Except Error (Part Data)) :=
  match cs with
  | '0' :: r =>
    match basedInt? r with
    | some (n, rest) => some (.ok (.int n, rest))
    | none => decimal? cs
  | _ => decimal? cs

def specialFloat? (cs : List Char) : Option (Binary64 × List Char) :=
  let (negative, unsigned) := signOf cs
  match unsigned with
  | 'i' :: 'n' :: 'f' :: rest => some (.infinite negative, rest)
  | 'n' :: 'a' :: 'n' :: rest => some (.nan, rest)
  | _ => none

def fixedNumber? (places low high : Nat) (cs : List Char) : Option (Nat × List Char) :=
  let digits := cs.take places
  if digits.length = places && digits.all isDigit then
    let n := Numeral.value digits
    if low ≤ n && n ≤ high then some (n, cs.drop places) else none
  else none

def mark? (c : Char) : List Char → Option (List Char)
  | d :: r => if c = d then some r else none
  | [] => none

/-- Parts of a second after a point, or none. No more than six digits count. -/
def secondFraction (cs : List Char) : Nat × List Char :=
  match cs with
  | '.' :: c :: r =>
    if isDigit c then
      let digits := (c :: r.takeWhile isDigit).take 6
      (Numeral.value (digits ++ List.replicate (6 - digits.length) '0'), r.dropWhile isDigit)
    else (0, cs)
  | _ => (0, cs)

def time? (cs : List Char) : Option (Part ClockTime) := do
  let (hour, r) ← fixedNumber? 2 0 23 cs
  let r ← mark? ':' r
  let (minute, r) ← fixedNumber? 2 0 59 r
  let r ← mark? ':' r
  let (second, r) ← fixedNumber? 2 0 59 r
  let (microsecond, r) := secondFraction r
  return (⟨hour, minute, second, microsecond⟩, r)

def offset? (cs : List Char) : Option (Part Int) :=
  match cs with
  | c :: r =>
    if c = 'Z' || c = 'z' then some (0, r)
    else if c = '+' || c = '-' then do
      let (hours, r) ← fixedNumber? 2 0 23 r
      let r ← mark? ':' r
      let (minutes, r) ← fixedNumber? 2 0 59 r
      let distance : Int := (hours * 60 + minutes : Nat)
      return (if c = '-' then -distance else distance, r)
    else none
  | [] => none

/-- A date, perhaps with a time and its offset. The calendar begins with the year one. -/
def date? (cs : List Char) : Option (Except Error (Part Moment)) := do
  let (year, r) ← fixedNumber? 4 0 9999 cs
  let r ← mark? '-' r
  let (month, r) ← fixedNumber? 2 1 12 r
  let r ← mark? '-' r
  let (day, r) ← fixedNumber? 2 1 31 r
  let date : Date := ⟨year, month, day⟩
  let timed? := match r with
    | c :: t => if c = 'T' || c = 't' || c = ' ' then time? t else none
    | [] => none
  if year = 0 || Date.daysIn year month < day then some (.error .malformed)
  else
    match timed? with
    | none => some (.ok (.date date, r))
    | some (time, t) =>
      match offset? t with
      | none => some (.ok (.dateTime date time none, t))
      | some (offset, rest) => some (.ok (.dateTime date time (some offset), rest))

end LineCalc.Toml
