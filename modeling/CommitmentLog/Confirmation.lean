import CommitmentLog.Checkpoints

/-!
# Confirmations

A confirmation tells that a root has been published: its checkpoint becomes mined at the time of the
publication.  A repeated confirmation changes nothing, unless it names an earlier time, which is refused.

Confirmations take no lock.  Each one reads the checkpoint, checks the transition, and writes under the
condition that the status is still the one that was read.  When the condition fails, another writer came
first; the checkpoint is then read and checked once more.  The writes of others between these steps are
given by a script, so that every course of events can be stated.
-/

set_option autoImplicit false

namespace CommitmentLog.Confirmation

open Store

/-! ## Transitions -/

/-- Whether a change of status has to be written; it need not if it repeats what is recorded. -/
def checkTransition (root : Bytes) (current : Status) (recorded : Option Timestamp) (next : Status)
    (given : Option Timestamp) : Except Failure Bool :=
  match current, next with
  | .mined, .mined =>
      match given, recorded with
      | some given, some recorded =>
          match given.isBefore? recorded with
          | none => .error .mixedOffsets
          | some true => .error (.refused (.earlierTime root recorded given))
          | some false => .ok false
      | _, _ => .ok false
  | .pending, .mined =>
      if given.isSome then .ok true else .error (.refused .timeMissing)
  | current, next => .error (.refused (.transition current next))

/-! ## Single steps -/

def examine (tables : Tables) (root : Bytes) (next : Status) (given : Option Civil) :
    Except Failure (Checkpoint × Bool) := do
  let checkpoint ← Checkpoints.get tables root
  let due ← checkTransition checkpoint.root checkpoint.status checkpoint.minedAt next
    (given.map Timestamp.ofCivil)
  .ok (checkpoint, due)

/-- The conditional write: a checkpoint that still has the status read before gets the new status and
time.  The answer tells how many checkpoints did. -/
def settle (schema : Schema) (tables : Tables) (root : Bytes) (prior next : Status)
    (given : Option Civil) : Option (Tables × Nat) :=
  (Statement.setStatus root [(.status, .text prior.text)] next (given.map Timestamp.ofCivil)).run schema
    tables

/-! ## Other writers -/

/-- What another writer does to the checkpoint.  It writes times without an offset. -/
inductive Interference where
  | nothing
  | delete
  | write (status : Status) (minedAt : Option Civil)
  deriving DecidableEq, Repr

def Interference.apply (schema : Schema) (root : Bytes) (tables : Tables) : Interference → Tables
  | .nothing => tables
  | .delete => (((Statement.deleteCheckpoint root).run schema tables).map (·.1)).getD tables
  | .write status minedAt =>
      (((Statement.setStatus root [] status (minedAt.map Timestamp.ofCivil)).run schema tables).map
        (·.1)).getD tables

/-- What other writers do during one pass: after the check, and before the next reading. -/
structure Interruption where
  afterCheck : Interference := .nothing
  beforeRead : Interference := .nothing
  deriving DecidableEq, Repr

/-! ## The whole change -/

/-- The result of a change, and the tables it leaves in its transaction. -/
abbrev Outcome : Type :=
  Except Failure (Checkpoint × Bool) × Tables

/-- At most this many passes.  The script says what happens in each, and `before` what happens before the
checkpoint is read. -/
def passes (schema : Schema) (conditions : Conditions) (root : Bytes) (next : Status)
    (given : Option Civil) : Nat → Interference → List Interruption → Tables → Outcome
  | 0, _, _, tables => (.error (.refused (.keepsChanging root)), tables)
  | remaining + 1, before, script, tables =>
      let tables := before.apply schema root tables
      let interruption := script.headD {}
      match examine tables root next given with
      | .error failure => (.error failure, tables)
      | .ok (checkpoint, due) =>
          let tables := interruption.afterCheck.apply schema root tables
          if !due then (.ok (checkpoint, false), tables)
          else if conditions.strikes .update then (.error (.refused .storageFailed), tables)
          else
            match settle schema tables root checkpoint.status next given with
            | none => (.error (.refused .storageFailed), tables)
            | some (after, touched) =>
                if touched = 1 then
                  let after := interruption.beforeRead.apply schema root after
                  match Checkpoints.get after root with
                  | .error failure => (.error failure, after)
                  | .ok checkpoint => (.ok (checkpoint, true), after)
                else
                  passes schema conditions root next given remaining interruption.beforeRead
                    script.tail after

/-- Changes the status of a checkpoint in two passes at most.  The result tells whether this change wrote
it. -/
def applyStatus (schema : Schema) (conditions : Conditions) (script : List Interruption) (root : Bytes)
    (next : Status) (given : Option Timestamp) (tables : Tables) : Outcome :=
  match given.mapM Checkpoints.universal with
  | .error failure => (.error failure, tables)
  | .ok given => passes schema conditions root next given 2 .nothing script tables

structure Confirmed where
  result : Except Failure Checkpoint
  counted : Bool
  tables : Tables

/-- A confirmation in a transaction of its own: what it wrote is kept only if it gets to the commit.  After
the commit it reports the time of the checkpoint, which other writers may have taken away. -/
def confirm (schema : Schema) (conditions : Conditions) (script : List Interruption) (root : Bytes)
    (minedAt : Timestamp) (tables : Tables) : Confirmed :=
  match applyStatus schema conditions script root .mined (some minedAt) tables with
  | (.error failure, _) => { result := .error failure, counted := false, tables }
  | (.ok (checkpoint, written), after) =>
      if conditions.strikes .commit then
        { result := .error (.refused .storageFailed), counted := false, tables }
      else if written && checkpoint.minedAt.isNone then
        { result := .error .timeGone, counted := true, tables := after }
      else { result := .ok checkpoint, counted := written, tables := after }

end CommitmentLog.Confirmation
