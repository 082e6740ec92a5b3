import CommitmentLog.Appender.Append
import CommitmentLog.Appender.Audit
import CommitmentLog.Appender.Inclusion
import CommitmentLog.Confirmation
import CommitmentLog.Counters

/-!
# Deployments

A deployment is one store with the appenders that share it, the counters, and a steady clock.  Every operation is one step
from a deployment to the next.  Appenders are told apart by name and come into being when they are first
named; a restart replaces an appender by a fresh one on the same store.
-/

set_option autoImplicit false

namespace CommitmentLog

structure Deployment where
  tables : Tables := {}
  appenders : List (String × Appender) := []
  counters : Counters := {}
  /-- The seconds on the steady clock. -/
  clock : Binary := .zero
  deriving DecidableEq, Repr

inductive Operation where
  | append (name : String) (commitment : Bytes)
  | appendAll (name : String) (commitments : List Bytes)
  | recover (name : String)
  | audit (name : String)
  | inclusionProof (name : String) (commitment : Bytes)
  | resetHalt (name : String)
  /-- Takes the lock of an appender from outside. -/
  | hold (name : String)
  | release (name : String)
  | restart (name : String)
  | confirm (script : List Confirmation.Interruption) (root : Bytes) (minedAt : Timestamp)
  | withStatus (status : Status)
  deriving DecidableEq, Repr

inductive Answer where
  | nothing
  | checkpoint (checkpoint : Checkpoint)
  | tree (tree : Tree.State Bytes)
  | report (report : AuditReport)
  | inclusion (inclusion : Inclusion)
  | acquired (acquired : Bool)
  | checkpoints (checkpoints : List Checkpoint)
  deriving DecidableEq, Repr

namespace Deployment

def appender (deployment : Deployment) (name : String) : Appender :=
  ((deployment.appenders.find? fun entry => entry.1 = name).map (·.2)).getD {}

def setAppender (deployment : Deployment) (name : String) (appender : Appender) : Deployment :=
  { deployment with
    appenders := (name, appender) :: deployment.appenders.filter fun entry => entry.1 ≠ name }

def append (setup : Setup) (conditions : Conditions) (name : String) (commitment : Bytes)
    (deployment : Deployment) : Except Failure Checkpoint × Deployment :=
  let outcome :=
    (deployment.appender name).append setup conditions deployment.clock deployment.tables commitment
  (outcome.result,
    { deployment.setAppender name outcome.appender with
      tables := outcome.tables
      counters := deployment.counters.afterAppend outcome.result
      clock := outcome.clock })

def writesPerAppend : Nat := 2

/-- Appends one after the other up to the first failure.  The answer is the last checkpoint. -/
def appendAll (setup : Setup) (name : String) :
    Conditions → Option Checkpoint → List Bytes → Deployment →
      Except Failure (Option Checkpoint) × Deployment
  | _, last, [], deployment => (.ok last, deployment)
  | conditions, _, commitment :: rest, deployment =>
      match deployment.append setup conditions name commitment with
      | (.error failure, deployment) => (.error failure, deployment)
      | (.ok checkpoint, deployment) =>
          appendAll setup name (conditions.after writesPerAppend) (some checkpoint) rest deployment

def confirm (setup : Setup) (conditions : Conditions) (script : List Confirmation.Interruption)
    (root : Bytes) (minedAt : Timestamp) (deployment : Deployment) :
    Except Failure Checkpoint × Deployment :=
  let confirmed := Confirmation.confirm setup.schema conditions script root minedAt deployment.tables
  (confirmed.result,
    { deployment with
      tables := confirmed.tables
      counters := deployment.counters.afterConfirmation confirmed.counted })

/-- An operation that touches nothing but the private state of one appender. -/
def onAppender {α : Type} (name : String) (act : Appender → Except Failure α × Appender)
    (answer : α → Answer) (deployment : Deployment) : Except Failure Answer × Deployment :=
  let (result, appender) := act (deployment.appender name)
  (result.map answer, deployment.setAppender name appender)

def step (setup : Setup) (conditions : Conditions) (deployment : Deployment) :
    Operation → Except Failure Answer × Deployment
  | .append name commitment =>
      let (result, deployment) := deployment.append setup conditions name commitment
      (result.map .checkpoint, deployment)
  | .appendAll name commitments =>
      let (result, deployment) := appendAll setup name conditions none commitments deployment
      (result.map fun last => (last.map Answer.checkpoint).getD .nothing, deployment)
  | .recover name => deployment.onAppender name (·.recover setup conditions deployment.tables) .tree
  | .audit name => deployment.onAppender name (·.audit setup conditions deployment.tables) .report
  | .inclusionProof _ commitment =>
      ((setup.inclusionProof conditions deployment.tables commitment).map .inclusion, deployment)
  | .resetHalt name => deployment.onAppender name (·.resetHalt setup) fun _ => .nothing
  | .hold name =>
      deployment.onAppender name (fun appender => (.ok appender.hold.1, appender.hold.2)) .acquired
  | .release name => deployment.onAppender name (·.release) fun _ => .nothing
  | .restart name => (.ok .nothing, deployment.setAppender name {})
  | .confirm script root minedAt =>
      let (result, deployment) := deployment.confirm setup conditions script root minedAt
      (result.map .checkpoint, deployment)
  | .withStatus status => (.ok (.checkpoints (deployment.tables.withStatus status)), deployment)

end Deployment

end CommitmentLog
