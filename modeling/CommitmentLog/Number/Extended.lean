import CommitmentLog.Number.Shortest

/-!
# Binary fractions with the infinities

A number that is read from text may be too large for a binary fraction, or be spelled as an infinity or as
no number at all.
-/

set_option autoImplicit false

namespace CommitmentLog

/-- A binary fraction, an infinity, or no number. -/
inductive Extended where
  | finite (value : Binary)
  | infinite (negative : Bool)
  | undefined
  deriving DecidableEq, Repr

namespace Extended

def ofSpelled : Number.Spelled → Extended
  | .finite decimal =>
      match Binary.ofDecimal? decimal with
      | some value => finite value
      | none => infinite decimal.negative
  | .infinite negative => infinite negative
  | .undefined => undefined

def isFinite : Extended → Bool
  | finite _ => true
  | _ => false

def text : Extended → String
  | finite value => value.text
  | infinite false => "inf"
  | infinite true => "-inf"
  | undefined => "nan"

end Extended

end CommitmentLog
