import LineCalc.Binary64.Basic

/-!
Floating-point numbers in decimal: the fewest digits that no other number is nearer to, with a point
or, for very large and very small numbers, a power of ten.
-/
namespace LineCalc.Binary64

structure Decimal where
  digits : Nat
  exponent : Int
  deriving DecidableEq, Repr

/-- A positive number and the bounds between which all reals are nearest to it, as multiples of one
unit over a common denominator. -/
structure Range where
  low : Nat
  value : Nat
  high : Nat
  den : Nat
  /-- Whether the bounds themselves round to the number. -/
  closed : Bool

/-- A number just above a power of two is closer to the number below it. -/
def rangeOf (significand : Nat) (exponent : Int) : Range :=
  let quarter := exponent - 2
  let unit := if 0 ≤ quarter then 1 <<< quarter.toNat else 1
  let den := if 0 ≤ quarter then 1 else 1 <<< (-quarter).toNat
  let below := if significand = leastNormal && lowestExponent < exponent then 1 else 2
  { low := (4 * significand - below) * unit
    value := 4 * significand * unit
    high := (4 * significand + 2) * unit
    den, closed := significand % 2 = 0 }

namespace Range

def magnitude (range : Range) : Int :=
  ((toString (range.value * powerOfTen 400 / range.den)).length : Int) - 400

def scaled (range : Range) (digits : Nat) (exponent : Int) (n : Nat) : Nat × Nat :=
  if 0 ≤ exponent then (digits * powerOfTen exponent.toNat * range.den, n)
  else (digits * range.den, n * powerOfTen (-exponent).toNat)

def holds (range : Range) (exponent : Int) (digits : Nat) : Bool :=
  let (point, low) := range.scaled digits exponent range.low
  let high := (range.scaled digits exponent range.high).2
  if range.closed then low ≤ point && point ≤ high else low < point && point < high

def below (range : Range) (exponent : Int) : Nat :=
  if 0 ≤ exponent then range.value / (range.den * powerOfTen exponent.toNat)
  else range.value * powerOfTen (-exponent).toNat / range.den

def pick? (range : Range) (exponent : Int) : Option Decimal :=
  let lower := range.below exponent
  match range.holds exponent lower, range.holds exponent (lower + 1) with
  | true, false => some ⟨lower, exponent⟩
  | false, true => some ⟨lower + 1, exponent⟩
  | false, false => none
  | true, true =>
    let (point, value) := range.scaled lower exponent range.value
    let next := (range.scaled (lower + 1) exponent range.value).1
    if value - point < next - value then some ⟨lower, exponent⟩
    else if next - value < value - point then some ⟨lower + 1, exponent⟩
    else some ⟨lower + lower % 2, exponent⟩

def search (range : Range) (magnitude : Int) : (rounds : Nat) → (digits : Nat) → Decimal
  | 0, digits => ⟨range.below (magnitude - digits), magnitude - digits⟩
  | rounds + 1, digits =>
    (range.pick? (magnitude - digits)).getD (search range magnitude rounds (digits + 1))

end Range

/-- Seventeen digits tell all numbers apart. -/
def shortest (significand : Nat) (exponent : Int) : Decimal :=
  let range := rangeOf significand exponent
  range.search range.magnitude 17 1

def dropTrailingZeros (digits : List Char) : List Char :=
  (digits.reverse.dropWhile (· = '0')).reverse

def zeros (n : Nat) : List Char := List.replicate n '0'

def positional (digits : List Char) (point : Int) : List Char :=
  if point ≤ 0 then '0' :: '.' :: (zeros (-point).toNat ++ digits)
  else
    let whole := digits.take point.toNat
    let fraction := digits.drop point.toNat
    whole ++ zeros (point.toNat - whole.length) ++ '.' :: (if fraction = [] then ['0'] else fraction)

def scientific (digits : List Char) (power : Int) : List Char :=
  let mantissa := match digits with
    | c :: [] => [c]
    | c :: r => c :: '.' :: r
    | [] => []
  let places := (toString power.natAbs).toList
  mantissa ++ 'e' :: (if power < 0 then '-' else '+') :: (zeros (2 - places.length) ++ places)

/-- Numbers from a ten-thousandth up to ten to the sixteenth are written without a power of ten. -/
def decimalText (digits : List Char) (point : Int) : List Char :=
  if -4 < point && point ≤ 16 then positional digits point else scientific digits (point - 1)

def text : Binary64 → String
  | nan => "nan"
  | infinite negative => if negative then "-inf" else "inf"
  | finite negative significand exponent =>
    let sign := if negative then ['-'] else []
    if significand = 0 then String.ofList (sign ++ ['0', '.', '0'])
    else
      let decimal := shortest significand exponent
      let digits := (toString decimal.digits).toList
      let point := (digits.length : Int) + decimal.exponent
      String.ofList (sign ++ decimalText (dropTrailingZeros digits) point)

end LineCalc.Binary64
