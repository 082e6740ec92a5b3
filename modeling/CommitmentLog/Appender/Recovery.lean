import CommitmentLog.Appender.Basic
import CommitmentLog.Ledger

/-!
# Recovery

The tree is rebuilt from all leaves and compared with the checkpoint of the longest prefix.  The leaves
and the checkpoint are read one after the other; the two readings may see different contents when another
appender writes in between.
-/

set_option autoImplicit false

namespace CommitmentLog

namespace Setup

/-- Compares a rebuilt tree with the latest checkpoint. -/
def accept (leaves : List Bytes) (tree : Tree.State Bytes) :
    Option Checkpoint → Except Refusal (Tree.State Bytes)
  | none => if leaves.isEmpty then .ok tree else .error (.noCheckpointFor leaves.length)
  | some latest =>
      if latest.identityCount ≠ tree.size then .error (.countMismatch latest.identityCount tree.size)
      else if latest.root ≠ tree.root then .error (.rootMismatch latest.root tree.root)
      else .ok tree

/-- The tree of the store, where the leaves are read from one content and the latest checkpoint from
another. -/
def loadTreeOver (setup : Setup) (conditions : Conditions) (leavesIn latestIn : Tables) :
    Except Failure (Tree.State Bytes) := do
  let leaves ← Ledger.leaves conditions leavesIn
  let tree ← (setup.shape.rebuild leaves).mapError .ofTree
  (accept leaves tree latestIn.latest?).mapError .refused

def loadTree (setup : Setup) (conditions : Conditions) (tables : Tables) :
    Except Failure (Tree.State Bytes) :=
  setup.loadTreeOver conditions tables tables

end Setup

namespace Appender

/-- The tree of the store, which the appender then keeps.  The two readings may see different contents. -/
def recoverOver (setup : Setup) (conditions : Conditions) (leavesIn latestIn : Tables)
    (appender : Appender) : Except Failure (Tree.State Bytes) × Appender :=
  let (outcome, appender) := appender.exclusively setup fun held =>
    match held.running with
    | .error failure => (.error failure, held)
    | .ok () =>
        match setup.loadTreeOver conditions leavesIn latestIn with
        | .ok tree => (.ok tree, { held with tree := some tree })
        | .error failure => (.error (retriable failure), held.afterFailure failure)
  (outcome >>= id, appender)

def recover (setup : Setup) (conditions : Conditions) (tables : Tables) (appender : Appender) :
    Except Failure (Tree.State Bytes) × Appender :=
  appender.recoverOver setup conditions tables tables

end Appender

end CommitmentLog
