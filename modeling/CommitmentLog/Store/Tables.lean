import CommitmentLog.Hex
import CommitmentLog.Store.Status
import CommitmentLog.Time.Timestamp

/-!
# The two tables

One table holds the identities: which commitment stands at which leaf.  The other holds the checkpoints:
one recorded root for each prefix of the identities.  A table is the list of its rows, kept in the order
in which every reader asks for them: identities by leaf, checkpoints by the number of identities they
cover.
-/

set_option autoImplicit false

namespace CommitmentLog

structure Identity where
  leafIndex : Int
  commitment : Bytes
  deriving DecidableEq, Repr

/-- A root recorded for a prefix of the identities.  The log itself records times without an offset; a time
that was written past it may have one. -/
structure Checkpoint where
  root : Bytes
  /-- The commitment at the last leaf of the prefix. -/
  lastIdentity : Bytes
  lastLeafIndex : Int
  /-- The length of the prefix. -/
  identityCount : Int
  status : Status
  createdAt : Timestamp
  minedAt : Option Timestamp
  deriving DecidableEq, Repr

structure Tables where
  /-- In the order of the leaves. -/
  identities : List Identity := []
  /-- In the order of the prefixes. -/
  checkpoints : List Checkpoint := []
  deriving DecidableEq, Repr

namespace Tables

def commitments (tables : Tables) : List Bytes :=
  tables.identities.map (·.commitment)

def holds (tables : Tables) (commitment : Bytes) (leafIndex : Int) : Bool :=
  tables.identities.any fun identity =>
    identity.commitment = commitment && identity.leafIndex = leafIndex

def withRoot? (tables : Tables) (root : Bytes) : Option Checkpoint :=
  tables.checkpoints.find? fun checkpoint => checkpoint.root = root

def ofPrefix? (tables : Tables) (count : Int) : Option Checkpoint :=
  tables.checkpoints.find? fun checkpoint => checkpoint.identityCount = count

def latest? (tables : Tables) : Option Checkpoint :=
  tables.checkpoints.getLast?

def withStatus (tables : Tables) (status : Status) : List Checkpoint :=
  tables.checkpoints.filter fun checkpoint => checkpoint.status = status

/-- The length of the longest prefix whose checkpoint is mined; zero if none is. -/
def highestMined (tables : Tables) : Int :=
  match (tables.withStatus .mined).getLast? with
  | none => 0
  | some checkpoint => checkpoint.identityCount

end Tables

end CommitmentLog
