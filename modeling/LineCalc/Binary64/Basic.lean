/-!
Floating-point numbers of 64 bits, taken apart into a sign, a whole significand and a power of two.
A ratio is rounded to the nearest of them in exact arithmetic.
-/
namespace LineCalc

/-- A finite number is its significand times two to the exponent. -/
inductive Binary64 where
  | nan
  | infinite (negative : Bool)
  | finite (negative : Bool) (significand : Nat) (exponent : Int)
  deriving DecidableEq, Repr, Inhabited

namespace Binary64

def leastNormal : Nat := 0x10000000000000

def lowestExponent : Int := -1074
def highestExponent : Int := 971

def zero (negative : Bool) : Binary64 := finite negative 0 lowestExponent

def powerOfTen : Nat → Nat
  | 0 => 1
  | n + 1 => 10 * powerOfTen n

/-- The whole number nearest to a ratio; of two the even one. -/
def nearest (num den : Nat) : Nat :=
  let whole := num / den
  let rest := 2 * (num % den)
  if rest < den then whole else if den < rest then whole + 1 else whole + whole % 2

def inUnits (num den : Nat) (exponent : Int) : Nat × Nat :=
  if 0 ≤ exponent then (num, den <<< exponent.toNat) else (num <<< (-exponent).toNat, den)

def exponentFor (num den : Nat) : Int :=
  let estimate : Int := (Nat.log2 num : Int) - (Nat.log2 den : Int) - 52
  let scaled := inUnits num den estimate
  let exponent := if scaled.1 < leastNormal * scaled.2 then estimate - 1 else estimate
  max exponent lowestExponent

def ofParts (negative : Bool) (significand : Nat) (exponent : Int) : Binary64 :=
  if highestExponent < exponent then infinite negative else finite negative significand exponent

def ofRatio (negative : Bool) (num den : Nat) : Binary64 :=
  if num = 0 then zero negative
  else
    let exponent := exponentFor num den
    let scaled := inUnits num den exponent
    let significand := nearest scaled.1 scaled.2
    if significand = 2 * leastNormal then ofParts negative leastNormal (exponent + 1)
    else ofParts negative significand exponent

/-- The number nearest to `significand` times ten to the `exponent`. Far out of range it is infinite
or zero. -/
def ofDecimal (negative : Bool) (significand : Nat) (exponent : Int) : Binary64 :=
  let digits : Int := (toString significand).length
  if significand = 0 || digits + exponent < -400 then zero negative
  else if 400 < digits + exponent then infinite negative
  else if 0 ≤ exponent then ofRatio negative (significand * powerOfTen exponent.toNat) 1
  else ofRatio negative significand (powerOfTen (-exponent).toNat)

def whole? : Binary64 → Option Int
  | finite negative significand exponent =>
    let sign : Int := if negative then -1 else 1
    if 0 ≤ exponent then some (sign * (significand <<< exponent.toNat : Nat))
    else
      let whole := significand >>> (-exponent).toNat
      if whole <<< (-exponent).toNat = significand then some (sign * (whole : Nat)) else none
  | _ => none

def isFinite : Binary64 → Bool
  | finite .. => true
  | _ => false

/-- Equality of numbers: zero has two signs, and what is no number equals nothing. -/
def equals : Binary64 → Binary64 → Bool
  | nan, _ | _, nan => false
  | finite _ 0 _, finite _ 0 _ => true
  | a, b => a == b

end Binary64
end LineCalc
