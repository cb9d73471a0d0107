/-!
# Binary floating point numbers of 64 bits

A finite number is a significand below `2 ^ 53` times a power of two not below `2 ^ (-1074)`, the
significand being at least `2 ^ 52` unless the power is the least one.
-/

namespace DotGraph

inductive Binary64
  | nan
  | infinite (negative : Bool)
  | finite (negative : Bool) (significand : Nat) (exponent : Int)
  deriving DecidableEq

namespace Binary64

def leastExponent : Int := -1074

def greatestExponent : Int := 971

def isZero : Binary64 → Bool
  | .finite _ significand _ => significand == 0
  | _ => false

/-- The number as an integer, if it is one. -/
def toInt? : Binary64 → Option Int
  | .finite negative significand exponent =>
    let magnitude :=
      if 0 ≤ exponent then some (significand * Nat.pow 2 exponent.toNat)
      else if significand % Nat.pow 2 (-exponent).toNat = 0 then
        some (significand / Nat.pow 2 (-exponent).toNat)
      else none
    magnitude.map fun n => if negative then -(n : Int) else n
  | _ => none

/-- A quotient rounded to the nearest whole number, to the even one if two are nearest. -/
def divideToEven (numerator denominator : Nat) : Nat :=
  let quotient := numerator / denominator
  let remainder := numerator % denominator
  if 2 * remainder < denominator then quotient
  else if denominator < 2 * remainder then quotient + 1
  else quotient + quotient % 2

/-- The number nearest to a quotient of positive numbers, of two nearest ones that with the even
significand. Quotients beyond the greatest finite number are infinite. -/
def ofQuotient (negative : Bool) (numerator denominator : Nat) : Binary64 :=
  let estimate : Int := (numerator.log2 : Int) - denominator.log2 - 52
  let scaled (exponent : Int) : Nat × Nat :=
    (numerator * Nat.pow 2 (-exponent).toNat, denominator * Nat.pow 2 exponent.toNat)
  let small := (scaled estimate).1 < (scaled estimate).2 * Nat.pow 2 52
  let exponent := max leastExponent (if small then estimate - 1 else estimate)
  let rounded := divideToEven (scaled exponent).1 (scaled exponent).2
  let (significand, exponent) :=
    if rounded = Nat.pow 2 53 then (Nat.pow 2 52, exponent + 1) else (rounded, exponent)
  if greatestExponent < exponent then .infinite negative
  else .finite negative significand exponent

/-- The number nearest to `digits * 10 ^ exponent`. Powers of ten that lie far outside the range are
answered without computing them. -/
def ofDecimal (negative : Bool) (digits : Nat) (exponent : Int) : Binary64 :=
  let magnitude : Int := (Nat.toDigits 10 digits).length + exponent
  if digits = 0 ∨ magnitude < -400 then .finite negative 0 leastExponent
  else if 400 < magnitude then .infinite negative
  else ofQuotient negative (digits * Nat.pow 10 exponent.toNat) (Nat.pow 10 (-exponent).toNat)

example : ofDecimal false 1 0 = .finite false (Nat.pow 2 52) (-52) := by decide +kernel
example : ofDecimal true 5 (-324) = .finite true 1 (-1074) := by decide +kernel
example : ofDecimal false 9007199254740993 0 = .finite false (Nat.pow 2 52) 1 := by decide +kernel
example : ofDecimal false 18 307 = .infinite false := by decide +kernel

end Binary64

end DotGraph
