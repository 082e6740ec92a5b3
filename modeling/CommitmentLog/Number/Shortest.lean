import CommitmentLog.Number.Binary

/-!
# The shortest decimal text of a binary fraction

A binary fraction is written with the fewest decimal digits that read back as the same fraction, and of
those nearest to it.  The decimal grids are tried from the coarsest on: the first one with a point in the
interval of numbers that round to the fraction decides.  Positional notation is used where the point falls
between four places before and sixteen places after the first digit, an exponent elsewhere.
-/

set_option autoImplicit false

namespace CommitmentLog.Binary

/-- Digits as one natural number that counts a power of ten. -/
structure Grid where
  digits : Nat
  exponent : Int
  deriving DecidableEq, Repr

/-- The fraction and the ends of the interval that rounds to it, in quarters of its last place.  Ends count
as inside exactly if the significand is even. -/
structure Interval where
  low : Nat
  exact : Nat
  high : Nat
  closed : Bool
  exponent : Int

/-- The numbers that round to a fraction above zero.  Below a power of two the gap is half as wide. -/
def interval (binary : Binary) : Interval :=
  let narrow := binary.significand = Nat.pow 2 52 ∧ leastExponent < binary.exponent
  { low := 4 * binary.significand - (if narrow then 1 else 2)
    exact := 4 * binary.significand
    high := 4 * binary.significand + 2
    closed := binary.significand % 2 = 0
    exponent := binary.exponent - 2 }

/-- The point of a decimal grid in the interval that is nearest to the exact value, if there is one.  Only
the two points around the value can be. -/
def Interval.pointOn? (interval : Interval) (exponent : Int) : Option Nat :=
  let point := Nat.pow 10 exponent.toNat * Nat.pow 2 (-interval.exponent).toNat
  let unit := Nat.pow 10 (-exponent).toNat * Nat.pow 2 interval.exponent.toNat
  let inside (candidate : Nat) : Bool :=
    candidate ≠ 0 &&
      if interval.closed then
        interval.low * unit ≤ candidate * point && candidate * point ≤ interval.high * unit
      else interval.low * unit < candidate * point && candidate * point < interval.high * unit
  let below := interval.exact * unit / point
  let gapBelow := interval.exact * unit - below * point
  let gapAbove := (below + 1) * point - interval.exact * unit
  match inside below, inside (below + 1) with
  | true, true =>
      if gapBelow < gapAbove then some below
      else if gapAbove < gapBelow then some (below + 1)
      else some (below + below % 2)
  | true, false => some below
  | false, true => some (below + 1)
  | false, false => none

/-- Tries this many grids, each ten times finer than the one before. -/
def Interval.search (interval : Interval) : Nat → Int → Grid
  | 0, exponent => { digits := 0, exponent }
  | count + 1, exponent =>
      match interval.pointOn? exponent with
      | some digits => { digits, exponent }
      | none => interval.search count (exponent - 1)

/-- A power of ten that is above the fraction and at most a dozen powers too large. -/
def coarsest (binary : Binary) : Int :=
  let magnitude := binary.exponent + (binary.significand.log2 : Int) + 1
  (if 0 ≤ magnitude then magnitude * 31 / 100 else magnitude * 30 / 100) + 2

def shortest (binary : Binary) : Grid :=
  binary.interval.search 40 binary.coarsest

/-- A whole number with its sign and at least two digits. -/
def exponentText (exponent : Int) : String :=
  let digits := toString exponent.natAbs
  (if exponent < 0 then "-" else "+") ++ (if digits.length < 2 then "0" ++ digits else digits)

def Grid.text (grid : Grid) : String :=
  let digits := (toString grid.digits).toList
  let point := (digits.length : Int) + grid.exponent
  if point ≤ -4 ∨ 16 < point then
    let mantissa := match digits with
      | first :: second :: rest => first :: '.' :: second :: rest
      | digits => digits
    String.ofList mantissa ++ "e" ++ exponentText (point - 1)
  else if point ≤ 0 then
    "0." ++ String.ofList (List.replicate (-point).toNat '0' ++ digits)
  else
    let whole := digits.take point.toNat
    let zeros := List.replicate (point.toNat - digits.length) '0'
    let fraction := digits.drop point.toNat
    String.ofList (whole ++ zeros) ++ "." ++
      (if fraction.isEmpty then "0" else String.ofList fraction)

def text (binary : Binary) : String :=
  (if binary.negative then "-" else "") ++
    (if binary.significand = 0 then "0.0" else binary.shortest.text)

end CommitmentLog.Binary
