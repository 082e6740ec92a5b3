import CommitmentLog.Number.Decimal
import CommitmentLog.Validation.Issue

/-!
# Integers in texts

Settings and query values arrive as texts.  Where an integer is wanted, a text that spells none is an
issue, and so is one with too many digits.
-/

set_option autoImplicit false

namespace CommitmentLog

def IssueKind.ofNoWholeNumber : Number.NoWholeNumber → IssueKind
  | .malformed => .noInteger
  | .overlong => .overlongInteger

def IssueKind.integer (text : List Char) : Except IssueKind Int :=
  (Number.wholeNumber text).mapError ofNoWholeNumber

end CommitmentLog
