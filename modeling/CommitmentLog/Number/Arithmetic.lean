import CommitmentLog.Number.Binary

/-!
# Arithmetic on binary fractions

Sums, differences, products and quotients are computed exactly and then rounded to the nearest binary
fraction, a tie to the even one.  A number less itself leaves nothing, and nothing is not rounded.
-/

set_option autoImplicit false

namespace CommitmentLog.Binary

def zero : Binary := { significand := 0 }

/-- The binary fraction nearest to an integer that counts a negative power of two. -/
def ofScaled (value : Int) (power : Nat) : Binary :=
  ofQuotient (value < 0) value.natAbs (Nat.pow 2 power)

def ofInt (value : Int) : Binary :=
  ofScaled value 0

def plus (first second : Binary) : Binary :=
  let power := max first.power second.power
  ofScaled (first.scaled power + second.scaled power) power

def minus (first second : Binary) : Binary :=
  let power := max first.power second.power
  ofScaled (first.scaled power - second.scaled power) power

def times (first second : Binary) : Binary :=
  ofScaled (first.scaled first.power * second.scaled second.power) (first.power + second.power)

def dividedBy (number : Binary) (divisor : Nat) : Binary :=
  ofQuotient number.negative (number.scaled number.power).natAbs (Nat.pow 2 number.power * divisor)

def size (number : Binary) : Binary :=
  { number with negative := false }

def floor (number : Binary) : Int :=
  number.scaled number.power / Int.pow 2 number.power

/-- The integer nearest to a number, a half away from zero. -/
def round (number : Binary) : Int :=
  let unit := Nat.pow 2 number.power
  let scaled := number.scaled number.power
  let nearest := (2 * scaled.natAbs + unit) / (2 * unit)
  if scaled < 0 then -(nearest : Int) else nearest

/-- The integer nearest to a number in the direction away from zero. -/
def roundAway (number : Binary) : Int :=
  let unit := Nat.pow 2 number.power
  let scaled := number.scaled number.power
  let nearest := (scaled.natAbs + (unit - 1)) / unit
  if scaled < 0 then -(nearest : Int) else nearest

end CommitmentLog.Binary
