/-!
# Issues

What is wrong with a value that was handed in: the kind of the fault, and where it is.
-/

set_option autoImplicit false

namespace CommitmentLog

inductive IssueKind where
  | noObject
  /-- The body of a request is no object. -/
  | bodyNoObject
  | missing
  | noString
  | noText
  | tooShort
  | tooLong
  /-- A text of admitted length that spells no value. -/
  | badValue (wording : String)
  /-- The value can be no date. -/
  | noDate
  | badDate
  /-- The value counts seconds beyond the admitted years, or lies in the year before year 1. -/
  | dateBeyond
  | noInteger
  | overlongInteger
  | noNumber
  | noStatus
  | malformedBody
  deriving DecidableEq, Repr

namespace IssueKind

def text : IssueKind → String
  | noObject => "model_type"
  | bodyNoObject => "model_attributes_type"
  | missing => "missing"
  | noString => "string_type"
  | noText => "string_unicode"
  | tooShort => "string_too_short"
  | tooLong => "string_too_long"
  | badValue _ => "value_error"
  | noDate => "datetime_type"
  | badDate => "datetime_from_date_parsing"
  | dateBeyond => "datetime_parsing"
  | noInteger => "int_parsing"
  | overlongInteger => "int_parsing_size"
  | noNumber => "float_parsing"
  | noStatus => "enum"
  | malformedBody => "json_invalid"

/-- The wording that comes with a kind; only a text that spells no value has one. -/
def message? : IssueKind → Option String
  | badValue wording => some ("Value error, " ++ wording)
  | _ => none

end IssueKind

inductive Place where
  | field (name : String)
  | position (index : Nat)
  deriving DecidableEq, Repr

structure Issue where
  kind : IssueKind
  location : List Place
  /-- Whether the value at fault can be written, so that a response can show it. -/
  shown : Bool := true
  deriving DecidableEq, Repr

namespace Issue

def inField (kind : IssueKind) (name : String) : Issue :=
  { kind, location := [.field name] }

def ofResult {α : Type} : Except Issue α → List Issue
  | .ok _ => []
  | .error issue => [issue]

def within (name : String) (issue : Issue) : Issue :=
  { issue with location := .field name :: issue.location }

end Issue

end CommitmentLog
