/-!
# Surrogate pairs

A character beyond the first 65536 code points is spelled by two units of sixteen bits, the halves of a
surrogate pair.  A half that stands alone is no character.
-/

set_option autoImplicit false

namespace CommitmentLog.Text.Surrogate

def isHigh (unit : Nat) : Bool := 0xd800 ≤ unit && unit ≤ 0xdbff

def isLow (unit : Nat) : Bool := 0xdc00 ≤ unit && unit ≤ 0xdfff

/-- The character of a unit that stands alone; a half has none. -/
def alone? (unit : Nat) : Option Char :=
  if isHigh unit || isLow unit then none else some (Char.ofNat unit)

def paired (high low : Nat) : Char :=
  Char.ofNat (0x10000 + (high - 0xd800) * 1024 + (low - 0xdc00))

/-- The characters of units; none stands for a half without its other half. -/
def characters : List Nat → List (Option Char)
  | high :: low :: rest =>
      if isHigh high && isLow low then some (paired high low) :: characters rest
      else alone? high :: characters (low :: rest)
  | [unit] => [alone? unit]
  | [] => []

end CommitmentLog.Text.Surrogate
