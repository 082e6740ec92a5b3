import CommitmentLog.Conditions
import CommitmentLog.Store.Statement

/-!
# Writing within an operation

A write carries out one statement, unless a fault strikes it.
-/

set_option autoImplicit false

namespace CommitmentLog

open Store

/-- The tables after a statement, carried out as the write that follows a number of others. -/
def Conditions.write (conditions : Conditions) (schema : Schema) (offset : Nat) (tables : Tables)
    (statement : Statement) : Except DatabaseError Tables :=
  match conditions.writeError? offset with
  | some error => .error error
  | none =>
      match statement.run schema tables with
      | none => .error .integrity
      | some (after, _) => .ok after

/-- The outcome of a statement that comes from outside: refused beforehand if it names an integer out of
range, carried out without regard to references otherwise. -/
def Store.Statement.execute (schema : Schema) (tables : Tables) (statement : Statement) :
    Except Failure (Tables × Nat) :=
  if statement.inRange then
    match statement.runUnreferenced schema tables with
    | none => .error (.database .integrity)
    | some outcome => .ok outcome
  else .error .integerTooLarge

end CommitmentLog
