import CommitmentLog.Number.Decimal

/-!
# Structured values

The values that request and response bodies hold.  Whole numbers are exact and of any size; every other
number keeps its decimal digits.  The fields of an object keep their order, and a field that is written
twice has the value written last.

A string in which half of a surrogate pair stands alone is no text.  It may be read all the same: as a
value it is `broken`, and as the name of a field it is a missing name.
-/

set_option autoImplicit false

namespace CommitmentLog

inductive Json where
  | null
  | bool (value : Bool)
  | integer (value : Int)
  | number (value : Number.Spelled)
  | string (value : String)
  /-- A string that is no text. -/
  | broken
  | array (items : List Json)
  | object (fields : List (Option String × Json))
  deriving Inhabited

namespace Json

/-- The value of a field, if the value is an object that has it. -/
def field? (value : Json) (name : String) : Option Json :=
  match value with
  | object fields => (fields.reverse.find? fun entry => entry.1 = some name).map (·.2)
  | _ => none

/-- The string that was read: a text, or none. -/
def ofText? : Option (List Char) → Json
  | some characters => string (String.ofList characters)
  | none => broken

end Json

end CommitmentLog
