import CommitmentLog.Failure
import CommitmentLog.Number.Arithmetic

/-!
# The conditions of an operation

Everything outside the tables and the appenders on which the outcome of an operation depends: the time on
the wall clock, the time that passes, and the faults that strike.  A fault strikes at one place and makes
it fail there; a place that the operation does not reach is not affected.
-/

set_option autoImplicit false

namespace CommitmentLog

/-- A place that fails, and how. -/
inductive Fault where
  /-- The storage is away when a checkpoint is about to be stored. -/
  | insertionAway
  /-- A checkpoint that is about to be stored is refused. -/
  | insertionRefused
  /-- Reading all identities fails. -/
  | leaves
  /-- Counting the identities fails. -/
  | count
  | commit
  /-- The conditional update of a status fails. -/
  | update
  /-- Writing fails when it happens for the given time within one operation, counted from one. -/
  | write (number : Nat) (error : DatabaseError)
  | hasherCrash
  /-- The hasher answers every append with one constant root. -/
  | hasherStuck
  deriving DecidableEq, Repr

structure Conditions where
  /-- The time on the wall clock. -/
  now : Timestamp := .ofCivil { year := 2026, month := 1, day := 1 }
  /-- The seconds that pass before a checkpoint is stored. -/
  elapsed : Binary := .zero
  faults : List Fault := []
  /-- The writes of this operation that lie behind. -/
  written : Nat := 0

namespace Conditions

def strikes (conditions : Conditions) (fault : Fault) : Bool :=
  conditions.faults.contains fault

/-- The error of the next write but some, if a fault strikes it. -/
def writeError? (conditions : Conditions) (offset : Nat) : Option DatabaseError :=
  let number := conditions.written + offset + 1
  if conditions.strikes (.write number .operational) then some .operational
  else if conditions.strikes (.write number .integrity) then some .integrity
  else none

def after (conditions : Conditions) (writes : Nat) : Conditions :=
  { conditions with written := conditions.written + writes }

end Conditions

end CommitmentLog
