import CommitmentLog.Store.Change
import CommitmentLog.Store.Tables

/-!
# The schema

A schema defines the two tables and the reference from a checkpoint to the identity at the end of its
prefix.  There are two schemas.  `Schema.declared` is the one an application creates by itself;
`Schema.migrated` is the one that a migration of an existing database leaves behind.  They state the same
rules in different places, and they differ in one thing: the migrated one stores a checkpoint without a
status as pending.
-/

set_option autoImplicit false

namespace CommitmentLog.Store

/-! ## Columns -/

inductive IdentityColumn where
  | leafIndex
  | commitment
  deriving DecidableEq, Repr

inductive CheckpointColumn where
  | root
  | lastIdentity
  | lastLeafIndex
  | identityCount
  | status
  | createdAt
  | minedAt
  deriving DecidableEq, Repr

def identityCells (identity : Identity) : Cells IdentityColumn
  | .leafIndex => .integer identity.leafIndex
  | .commitment => .bytes identity.commitment

def identityOfCells? (cells : Cells IdentityColumn) : Option Identity :=
  match cells .leafIndex, cells .commitment with
  | .integer leafIndex, .bytes commitment => some { leafIndex, commitment }
  | _, _ => none

def checkpointCells (checkpoint : Checkpoint) : Cells CheckpointColumn
  | .root => .bytes checkpoint.root
  | .lastIdentity => .bytes checkpoint.lastIdentity
  | .lastLeafIndex => .integer checkpoint.lastLeafIndex
  | .identityCount => .integer checkpoint.identityCount
  | .status => .text checkpoint.status.text
  | .createdAt => .time checkpoint.createdAt
  | .minedAt => (checkpoint.minedAt.map Cell.time).getD .null

def optionalTime? : Cell → Option (Option Timestamp)
  | .null => some none
  | .time value => some (some value)
  | _ => none

def status? : Cell → Option Status
  | .text value => Status.ofText? value
  | _ => none

def checkpointOfCells? (cells : Cells CheckpointColumn) : Option Checkpoint :=
  match cells .root, cells .lastIdentity, cells .lastLeafIndex, cells .identityCount,
      status? (cells .status), cells .createdAt, optionalTime? (cells .minedAt) with
  | .bytes root, .bytes lastIdentity, .integer lastLeafIndex, .integer identityCount, some status,
      .time createdAt, some minedAt =>
      some { root, lastIdentity, lastLeafIndex, identityCount, status, createdAt, minedAt }
  | _, _, _, _, _, _, _ => none

def identityLayout : Layout IdentityColumn Identity :=
  { cells := identityCells, ofCells? := identityOfCells?, order := (·.leafIndex) }

def checkpointLayout : Layout CheckpointColumn Checkpoint :=
  { cells := checkpointCells, ofCells? := checkpointOfCells?, order := (·.identityCount) }

/-! ## Schemas -/

/-- The definitions of both tables, and the columns by which a checkpoint refers to an identity. -/
structure Schema where
  identities : Definition IdentityColumn
  checkpoints : Definition CheckpointColumn
  reference : List (CheckpointColumn × IdentityColumn)

namespace Schema

def statusValues : List String :=
  Status.all.map Status.text

def lastIdentityReference : List (CheckpointColumn × IdentityColumn) :=
  [(.lastIdentity, .commitment), (.lastLeafIndex, .leafIndex)]

/-- The schema that an application creates by itself. -/
def declared : Schema :=
  { identities :=
      { name := "identities"
        columns :=
          [{ column := .commitment, kind := .bytes 32 },
           { column := .leafIndex, kind := .integer, key := true }]
        unique := [[.commitment, .leafIndex]]
        checks := [.atLeast .leafIndex 0] }
    checkpoints :=
      { name := "root_history"
        columns :=
          [{ column := .root, kind := .bytes 32, key := true },
           { column := .lastIdentity, kind := .bytes 32 },
           { column := .lastLeafIndex, kind := .integer },
           { column := .identityCount, kind := .integer, unique := true },
           { column := .status, kind := .text 50, values := some statusValues },
           { column := .createdAt, kind := .time },
           { column := .minedAt, kind := .time, required := false }]
        checks := [.successor .identityCount .lastLeafIndex] }
    reference := lastIdentityReference }

/-- The schema that a migration leaves behind. -/
def migrated : Schema :=
  { identities :=
      { name := "identities"
        columns :=
          [{ column := .leafIndex, kind := .integer, key := true },
           { column := .commitment, kind := .bytes 32 }]
        checks := [.atLeast .leafIndex 0]
        uniqueIndexes := [[.commitment, .leafIndex]] }
    checkpoints :=
      { name := "root_history"
        columns :=
          [{ column := .root, kind := .bytes 32, key := true },
           { column := .lastIdentity, kind := .bytes 32 },
           { column := .lastLeafIndex, kind := .integer },
           { column := .identityCount, kind := .integer, unique := true },
           { column := .status, kind := .text 50, default := .text Status.pending.text },
           { column := .createdAt, kind := .time },
           { column := .minedAt, kind := .time, required := false }]
        checks :=
          [.successor .identityCount .lastLeafIndex,
           .oneOf .status statusValues] }
    reference := lastIdentityReference }

def tableNames (schema : Schema) : List String :=
  [schema.identities.name, schema.checkpoints.name]

/-- The table in which migrations note which of them have run.  It outlives every migration. -/
def migrationTable : String := "alembic_version"

def tablesAfterUndoing (schema : Schema) : List String :=
  (migrationTable :: schema.tableNames).filter fun name => !schema.tableNames.contains name

/-! ## References -/

def refers (schema : Schema) (checkpoint : Checkpoint) (identity : Identity) : Bool :=
  schema.reference.all fun (column, target) =>
    checkpointCells checkpoint column = identityCells identity target

def orphaned (schema : Schema) (identities : List Identity) (checkpoint : Checkpoint) : Bool :=
  !identities.any (schema.refers checkpoint)

def sameReference (schema : Schema) (first second : Checkpoint) : Bool :=
  schema.reference.all fun (column, _) => checkpointCells first column = checkpointCells second column

def redirects (schema : Schema) (assignment : Assignment CheckpointColumn) : Bool :=
  assignment.any fun entry => schema.reference.any fun (column, _) => entry.1 = column

/-- Whether every checkpoint without its identity was without it before. -/
def keepsReferences (schema : Schema) (before after : Tables) : Bool :=
  after.checkpoints.all fun checkpoint =>
    !schema.orphaned after.identities checkpoint ||
      before.checkpoints.any fun old =>
        schema.sameReference old checkpoint && schema.orphaned before.identities old

end Schema

end CommitmentLog.Store
