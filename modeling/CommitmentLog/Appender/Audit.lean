import CommitmentLog.Appender.Basic
import CommitmentLog.Ledger

/-!
# Audit

An audit recomputes the root of every prefix and compares it with the recorded checkpoint.  It accepts
exactly one checkpoint for each prefix.  A halted appender may be audited.
-/

set_option autoImplicit false

namespace CommitmentLog

structure AuditReport where
  identities : Nat
  checkpoints : Nat
  latestRoot : Option Bytes
  deriving DecidableEq, Repr

namespace Setup

/-- The tree after the leaf of one checkpoint, which must be the checkpoint of the expected prefix. -/
def auditOne (setup : Setup) (conditions : Conditions) (leaves : List Bytes) (expected : Nat)
    (tree : Tree.State Bytes) (checkpoint : Checkpoint) : Except Failure (Tree.State Bytes) :=
  if checkpoint.identityCount ≠ expected then .error (.refused (.missingPrefix expected))
  else
    match leaves[expected - 1]? with
    | none => .error (.refused (.beyondLedger checkpoint.identityCount))
    | some leaf =>
        if checkpoint.lastIdentity ≠ leaf then .error (.refused (.wrongLastIdentity checkpoint.root))
        else
          match setup.extend conditions tree leaf with
          | .error failure => .error failure
          | .ok next =>
              if next.root ≠ checkpoint.root then
                .error (.refused (.prefixMismatch checkpoint.identityCount checkpoint.root next.root))
              else .ok next

def auditFrom (setup : Setup) (conditions : Conditions) (leaves : List Bytes) :
    Nat → Tree.State Bytes → List Checkpoint → Except Failure Unit
  | _, _, [] => .ok ()
  | expected, tree, checkpoint :: rest =>
      match setup.auditOne conditions leaves expected tree checkpoint with
      | .error failure => .error failure
      | .ok next => setup.auditFrom conditions leaves (expected + 1) next rest

/-- The audit of a store, where the leaves are read from one content and the checkpoints from another. -/
def auditOver (setup : Setup) (conditions : Conditions) (leavesIn checkpointsIn : Tables) :
    Except Failure AuditReport := do
  let leaves ← Ledger.leaves conditions leavesIn
  let checkpoints := checkpointsIn.checkpoints
  setup.auditFrom conditions leaves 1 setup.shape.empty checkpoints
  if checkpoints.length ≠ leaves.length then
    .error (.refused (.checkpointCountMismatch leaves.length checkpoints.length))
  else
    .ok { identities := leaves.length, checkpoints := checkpoints.length,
          latestRoot := checkpoints.getLast?.map (·.root) }

end Setup

namespace Appender

def auditOver (setup : Setup) (conditions : Conditions) (leavesIn checkpointsIn : Tables)
    (appender : Appender) : Except Failure AuditReport × Appender :=
  let (outcome, appender) := appender.exclusively setup fun held =>
    match setup.auditOver conditions leavesIn checkpointsIn with
    | .ok report => (.ok report, held)
    | .error failure => (.error (retriable failure), held.afterFailure failure)
  (outcome >>= id, appender)

def audit (setup : Setup) (conditions : Conditions) (tables : Tables) (appender : Appender) :
    Except Failure AuditReport × Appender :=
  appender.auditOver setup conditions tables tables

end Appender

end CommitmentLog
