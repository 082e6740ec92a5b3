import CommitmentLog.Store.Schema

/-!
# Statements

A statement changes one of the two tables.  The schema refuses it when a definition does, and also when it
leaves a checkpoint without its identity that had one before or was not there.  No new identity and no
checkpoint that goes can do that, nor a checkpoint that keeps its reference.  A statement names integers of
sixty-four bits only.
-/

set_option autoImplicit false

namespace CommitmentLog.Store

inductive Statement where
  | identities (change : Change IdentityColumn)
  | checkpoints (change : Change CheckpointColumn)

namespace Statement

def integerRange : Int × Int :=
  (-9223372036854775808, 9223372036854775807)

def fits (value : Int) : Bool :=
  integerRange.1 ≤ value && value ≤ integerRange.2

def cellFits : Cell → Bool
  | .integer value => fits value
  | _ => true

def inRange : Statement → Bool
  | .identities change => change.named.all cellFits
  | .checkpoints change => change.named.all cellFits

/-- The tables after a statement and the number of rows it touched, without regard to references; none
if a definition refuses it. -/
def runUnreferenced (schema : Schema) (tables : Tables) : Statement → Option (Tables × Nat)
  | .identities change =>
      (change.run identityLayout schema.identities tables.identities).map fun (rows, touched) =>
        ({ tables with identities := rows }, touched)
  | .checkpoints change =>
      (change.run checkpointLayout schema.checkpoints tables.checkpoints).map fun (rows, touched) =>
        ({ tables with checkpoints := rows }, touched)

/-- Whether a statement that leaves the tables `after` keeps the references.  Of the rows that are there
before and afterwards only those are looked at that the statement can affect. -/
def keepsReferences (schema : Schema) (before after : Tables) : Statement → Bool
  | .identities (.insert _) => true
  | .identities _ => schema.keepsReferences before after
  | .checkpoints (.insert draft) =>
      (checkpointOfCells? (schema.checkpoints.fill draft)).all fun checkpoint =>
        !schema.orphaned after.identities checkpoint
  | .checkpoints (.update _ assignment) =>
      !schema.redirects assignment || schema.keepsReferences before after
  | .checkpoints (.delete _) => true

/-- The tables after a statement and the number of rows it touched; none if the schema refuses it. -/
def run (schema : Schema) (tables : Tables) (statement : Statement) : Option (Tables × Nat) :=
  match statement.runUnreferenced schema tables with
  | none => none
  | some (after, touched) =>
      if statement.keepsReferences schema tables after then some (after, touched) else none

def insertIdentity (identity : Identity) : Statement :=
  .identities (.insert
    [(.leafIndex, .integer identity.leafIndex), (.commitment, .bytes identity.commitment)])

def insertCheckpoint (checkpoint : Checkpoint) : Statement :=
  let cells := checkpointCells checkpoint
  .checkpoints (.insert
    (([.root, .lastIdentity, .lastLeafIndex, .identityCount, .status, .createdAt, .minedAt] :
      List CheckpointColumn).map fun column => (column, cells column)))

/-- The statement that gives a status and a time to the checkpoint with a root. -/
def setStatus (root : Bytes) (selector : Assignment CheckpointColumn) (status : Status)
    (minedAt : Option Timestamp) : Statement :=
  .checkpoints (.update ((.root, .bytes root) :: selector)
    [(.status, .text status.text), (.minedAt, (minedAt.map Cell.time).getD .null)])

def deleteCheckpoint (root : Bytes) : Statement :=
  .checkpoints (.delete [(.root, .bytes root)])

end Statement

end CommitmentLog.Store
