import CommitmentLog.Number.Decimal

/-!
# Binary fractions

Durations are measured in binary fractions of sixty-four bits: a natural number below 2 ^ 53 times a power
of two between 2 ^ -1074 and 2 ^ 971, with a sign.  A decimal number is rounded to the nearest one, a tie
to the even neighbour.  Comparison is exact.
-/

set_option autoImplicit false

namespace CommitmentLog

/-- The number `significand * 2 ^ exponent`, with a sign that zero has too. -/
structure Binary where
  negative : Bool := false
  significand : Nat
  exponent : Int := 0
  deriving DecidableEq, Repr

namespace Binary

def leastExponent : Int := -1074

/-- The value times a power of two that makes it whole, as an integer.  The power must be at least as
large as the exponent is negative. -/
def scaled (binary : Binary) (power : Nat) : Int :=
  let size := binary.significand * Nat.pow 2 (binary.exponent + power).toNat
  if binary.negative then -(size : Int) else size

def power (binary : Binary) : Nat :=
  (-binary.exponent).toNat

def isLess (first second : Binary) : Bool :=
  let power := max first.power second.power
  first.scaled power < second.scaled power

/-- A quotient rounded to the nearest whole number, a tie to the even one. -/
def divideToEven (numerator denominator : Nat) : Nat :=
  let quotient := numerator / denominator
  let twice := 2 * (numerator % denominator)
  if denominator < twice then quotient + 1
  else if twice = denominator then quotient + quotient % 2
  else quotient

/-- The exponent at which a quotient above zero has a whole part of fifty-three bits, or the least
exponent if that is larger. -/
def exponentFor (numerator denominator : Nat) : Int :=
  let guess : Int := (numerator.log2 : Int) - (denominator.log2 : Int) - 52
  let whole := numerator * Nat.pow 2 (-guess).toNat / (denominator * Nat.pow 2 guess.toNat)
  let exact :=
    if whole < Nat.pow 2 52 then guess - 1 else if Nat.pow 2 53 ≤ whole then guess + 1 else guess
  max exact leastExponent

def ofQuotient (negative : Bool) (numerator denominator : Nat) : Binary :=
  if numerator = 0 then { negative, significand := 0 }
  else
    let exponent := exponentFor numerator denominator
    let rounded :=
      divideToEven (numerator * Nat.pow 2 (-exponent).toNat)
        (denominator * Nat.pow 2 exponent.toNat)
    if rounded = Nat.pow 2 53 then
      { negative, significand := Nat.pow 2 52, exponent := exponent + 1 }
    else { negative, significand := rounded, exponent }

def largestExponent : Int := 971

def digitCount (value : Nat) : Nat :=
  (Nat.toDigits 10 value).length

/-- The binary fraction nearest to a decimal number; none if the number is too large for any. -/
def ofDecimal? (decimal : Decimal) : Option Binary :=
  let magnitude := decimal.exponent + (digitCount decimal.digits : Int)
  if decimal.digits = 0 ∨ magnitude < -400 then
    some { negative := decimal.negative, significand := 0 }
  else if 400 < magnitude then none
  else
    let binary := ofQuotient decimal.negative (decimal.digits * Nat.pow 10 decimal.exponent.toNat)
      (Nat.pow 10 (-decimal.exponent).toNat)
    if largestExponent < binary.exponent then none else some binary

end Binary

end CommitmentLog
