import CommitmentLog.Ledger

/-!
# The checkpoints

A checkpoint records the root of one prefix of the ledger.  Recording checks by itself everything that
the schema demands, and in a fixed order: a mined checkpoint has a time and a pending one has none, the
root is new, the identity at the end of the prefix is stored, and the prefix has no checkpoint yet.
-/

set_option autoImplicit false

namespace CommitmentLog.Checkpoints

open Store

structure Draft where
  root : Bytes
  lastIdentity : Bytes
  identityCount : Int
  status : Status := .pending
  /-- The time on the wall clock if not given. -/
  createdAt : Option Timestamp := none
  minedAt : Option Timestamp := none
  deriving DecidableEq, Repr

def universal (timestamp : Timestamp) : Except Failure Civil :=
  match timestamp.toUniversal? with
  | some civil => .ok civil
  | none => .error .dateOutOfRange

/-- The refusals that do not look into the tables' rules, up to the identity at the end of the prefix. -/
def checkDraft (tables : Tables) (draft : Draft) : Except Failure Unit :=
  if (draft.status = .mined) ≠ draft.minedAt.isSome then
    .error (.refused (.statusWithoutTime draft.status draft.minedAt))
  else if (tables.withRoot? draft.root).isSome then .error (.refused (.rootRecorded draft.root))
  else .ok ()

def hasLastIdentity (tables : Tables) (draft : Draft) : Except Failure Bool :=
  if draft.identityCount < 1 then .ok false
  else Ledger.contains tables draft.lastIdentity (draft.identityCount - 1)

/-- The tables with one more checkpoint, and the checkpoint.  The offset is the number of writes that the
operation has behind it. -/
def insert (schema : Schema) (conditions : Conditions) (offset : Nat) (tables : Tables) (draft : Draft) :
    Except Failure (Checkpoint × Tables) := do
  if conditions.strikes .insertionAway then .error (.refused .diskAway)
  else if conditions.strikes .insertionRefused then .error (.refused .checkpointRefused)
  else
    checkDraft tables draft
    if ← hasLastIdentity tables draft then
      let count ← Ledger.bound draft.identityCount
      match tables.ofPrefix? count with
      | some other => .error (.refused (.prefixTaken count other.root))
      | none =>
          let createdAt ← universal (draft.createdAt.getD conditions.now)
          let minedAt ← draft.minedAt.mapM universal
          let checkpoint : Checkpoint :=
            { root := draft.root, lastIdentity := draft.lastIdentity, lastLeafIndex := count - 1,
              identityCount := count, status := draft.status, createdAt := .ofCivil createdAt,
              minedAt := minedAt.map Timestamp.ofCivil }
          match conditions.write schema offset tables (.insertCheckpoint checkpoint) with
          | .ok after => .ok (checkpoint, after)
          | .error .integrity => .error (.refused (.rootRejected draft.root))
          | .error .operational => .error (.refused .storageFailed)
    else
      .error (.refused (.missingIdentity draft.lastIdentity (draft.identityCount - 1)))

def get (tables : Tables) (root : Bytes) : Except Failure Checkpoint :=
  match tables.withRoot? root with
  | some checkpoint => .ok checkpoint
  | none => .error (.refused (.unknownRoot root))

def latest (tables : Tables) : Except Failure Checkpoint :=
  match tables.latest? with
  | some checkpoint => .ok checkpoint
  | none => .error (.refused .noCheckpoint)

end CommitmentLog.Checkpoints
