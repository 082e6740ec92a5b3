import CommitmentLog.Confirmation
import CommitmentLog.Counters

/-!
# Racing confirmations

Several confirmations of one root at a time.  Each of them goes on by single statements: it reads the
checkpoint and checks the transition, it writes under the condition that the status is still the one that
it has read, and it reads the checkpoint again.  The conditional write takes effect together with its
commit.  Between two statements of one confirmation the others may go on with theirs, in any order.
-/

set_option autoImplicit false

namespace CommitmentLog.Confirmation

open Store

/-- Where a confirmation stands between two of its statements. -/
inductive Stage where
  /-- The checkpoint is read and checked next.  After this pass so many others are left. -/
  | checking (given : Civil) (spare : Nat)
  /-- The change is written next, if the status is still the one that was read. -/
  | writing (given : Civil) (spare : Nat) (prior : Status)
  /-- The change is written, and the checkpoint is read again next. -/
  | rereading
  | ended (result : Except Failure Checkpoint) (counted : Bool)

namespace Stage

def pass (root : Bytes) (given : Civil) : Nat → Stage
  | 0 => .ended (.error (.refused (.keepsChanging root))) false
  | spare + 1 => .checking given spare

def start (root : Bytes) (minedAt : Timestamp) : Stage :=
  match Checkpoints.universal minedAt with
  | .error failure => .ended (.error failure) false
  | .ok given => pass root given 2

/-- A confirmation whose change of status has come to an outcome.  If it has written, it reports the time
of the checkpoint. -/
def conclude : Except Failure (Checkpoint × Bool) → Stage
  | .error failure => .ended (.error failure) false
  | .ok (checkpoint, written) =>
      if written && checkpoint.minedAt.isNone then .ended (.error .timeGone) true
      else .ended (.ok checkpoint) written

/-- The next statement of a confirmation, and the tables that it leaves. -/
def next (schema : Schema) (root : Bytes) (tables : Tables) : Stage → Stage × Tables
  | .checking given spare =>
      match examine tables root .mined (some given) with
      | .ok (checkpoint, true) => (.writing given spare checkpoint.status, tables)
      | outcome => (conclude outcome, tables)
  | .writing given spare prior =>
      match settle schema tables root prior .mined (some given) with
      | none => (.ended (.error (.refused .storageFailed)) false, tables)
      | some (after, touched) =>
          if touched = 1 then (.rereading, after) else (pass root given spare, after)
  | .rereading =>
      (conclude ((Checkpoints.get tables root).map fun checkpoint => (checkpoint, true)), tables)
  | .ended result counted => (.ended result counted, tables)

def isOver : Stage → Bool
  | .ended _ _ => true
  | _ => false

def counted : Stage → Bool
  | .ended _ counted => counted
  | _ => false

end Stage

structure Race where
  tables : Tables
  counters : Counters
  calls : List Stage

namespace Race

def start (root : Bytes) (tables : Tables) (counters : Counters) (times : List Timestamp) : Race :=
  { tables, counters, calls := times.map (Stage.start root) }

/-- One confirmation carries out its next statement.  One that has ended, or is not there, does nothing. -/
def turn (schema : Schema) (root : Bytes) (race : Race) (index : Nat) : Race :=
  match race.calls[index]? with
  | none => race
  | some stage =>
      if stage.isOver then race
      else
        let (stage, tables) := stage.next schema root race.tables
        { tables
          counters := race.counters.afterConfirmation stage.counted
          calls := race.calls.set index stage }

def run (schema : Schema) (root : Bytes) (race : Race) (turns : List Nat) : Race :=
  turns.foldl (turn schema root) race

def isOver (race : Race) : Bool :=
  race.calls.all (·.isOver)

end Race

end CommitmentLog.Confirmation
