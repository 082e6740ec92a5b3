import CommitmentLog.Conditions
import CommitmentLog.Store.Schema

/-!
# The appender

An appender writes commitments and their checkpoints.  It keeps the tree of the prefix it has seen, so
that an append need not read all leaves, and it stops for good when it finds that the store contradicts
itself: from then on it refuses to append until an operator resets it.  One lock admits one caller at a
time.  Several appenders may work on the same store; what an appender keeps is never more than a guess
about it.
-/

set_option autoImplicit false

namespace CommitmentLog

/-- What all appenders of one store share. -/
structure Setup where
  schema : Store.Schema := .declared
  shape : Tree.Shape Bytes
  /-- The bound, in seconds, for waiting and for one append. -/
  timeout : Binary

structure Appender where
  tree : Option (Tree.State Bytes) := none
  halted : Option String := none
  locked : Bool := false
  deriving DecidableEq, Repr

namespace Setup

def nanosecondsPerSecond : Nat := 1000000000

/-- The nanoseconds for which a caller waits, rounded away from zero, if they fit into sixty-four bits. -/
@[irreducible] def patience? (setup : Setup) : Option Int :=
  let nanoseconds := setup.timeout.times (.ofInt nanosecondsPerSecond)
  if nanoseconds.isLess (.ofInt (-Int.pow 2 63)) || !nanoseconds.isLess (.ofInt (Int.pow 2 63)) then none
  else some nanoseconds.roundAway

/-- A wait of this many nanoseconds has no end. -/
def endless : Int := -nanosecondsPerSecond

/-- Why the timeout cannot bound a wait, if it cannot. -/
def waitFailure? (setup : Setup) : Option Failure :=
  match setup.patience? with
  | none => some .timeoutTooLarge
  | some nanoseconds =>
      if nanoseconds < 0 ∧ nanoseconds ≠ endless then some .negativeTimeout else none

def stuckRoot : Bytes :=
  List.replicate Hex.digestLength 0x42

/-- The tree with one more leaf, as the hasher computes it under the given conditions. -/
def extend (setup : Setup) (conditions : Conditions) (tree : Tree.State Bytes) (leaf : Bytes) :
    Except Failure (Tree.State Bytes) :=
  if conditions.strikes .hasherCrash then .error .hasherCrashed
  else
    match setup.shape.append tree leaf with
    | .error reason => .error (.ofTree reason)
    | .ok next =>
        .ok (if conditions.strikes .hasherStuck then { next with root := stuckRoot } else next)

end Setup

namespace Appender

/-- Whether a caller gets the lock.  One that waits without end does not come back before it does, so then the
refusal stands for no answer at all. -/
def enter (setup : Setup) (appender : Appender) : Except Failure Unit :=
  match setup.waitFailure? with
  | some failure => .error failure
  | none => if appender.locked then .error (.refused (.busy setup.timeout)) else .ok ()

def running (appender : Appender) : Except Failure Unit :=
  match appender.halted with
  | none => .ok ()
  | some reason => .error (.refused (.halted reason))

/-- The appender after a failure: a violation of integrity stops it and drops its tree. -/
def afterFailure (appender : Appender) : Failure → Appender
  | .refused refusal =>
      if refusal.category = .integrityViolation then
        { appender with halted := some refusal.wording, tree := none }
      else appender
  | _ => appender

/-- A database error becomes a refusal that may be tried again; other failures stay. -/
def retriable : Failure → Failure
  | .database _ => .refused .storageFailed
  | failure => failure

/-- Takes the lock if it is free, and tells whether it did. -/
def hold (appender : Appender) : Bool × Appender :=
  (!appender.locked, { appender with locked := true })

def release (appender : Appender) : Except Failure Unit × Appender :=
  if appender.locked then (.ok (), { appender with locked := false })
  else (.error .lockFree, appender)

/-- An action with the lock held.  It is released afterwards, however the action ends. -/
def exclusively {Result : Type} (setup : Setup) (action : Appender → Result × Appender)
    (appender : Appender) : Except Failure Result × Appender :=
  match appender.enter setup with
  | .error failure => (.error failure, appender)
  | .ok () =>
      let (result, held) := action appender.hold.2
      (.ok result, held.release.2)

/-- Clears a halt.  The tree is dropped, so that the next append reads the store anew. -/
def resetHalt (setup : Setup) (appender : Appender) : Except Failure Unit × Appender :=
  appender.exclusively setup fun held => ((), { held with halted := none, tree := none })

end Appender

end CommitmentLog
