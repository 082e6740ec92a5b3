/-!
# The status of a checkpoint

A checkpoint is pending until its publication is confirmed; from then on it is mined.
-/

set_option autoImplicit false

namespace CommitmentLog

inductive Status where
  | pending
  | mined
  deriving DecidableEq, Repr

namespace Status

def text : Status → String
  | pending => "pending"
  | mined => "mined"

def all : List Status :=
  [pending, mined]

/-- The status that a text writes, if it writes one exactly. -/
def ofText? (text : String) : Option Status :=
  all.find? fun status => status.text = text

theorem ofText?_text (status : Status) : ofText? status.text = some status := by
  cases status with
  | pending => rfl
  | mined => rfl

end Status

end CommitmentLog
