import CommitmentLog.Appender.Basic
import CommitmentLog.Checkpoints
import CommitmentLog.Tree.Proof

/-!
# Inclusion proofs

An inclusion proof shows that a commitment belongs to the latest checkpoint.  It takes no lock and makes
four readings, each of which may see a newer content than the one before: where the commitment stands,
the latest checkpoint, the leaves, and how many identities mined checkpoints cover.  The proof is built
over the leaves that the checkpoint covers and no others.
-/

set_option autoImplicit false

namespace CommitmentLog

/-- A proof together with what it proves. -/
structure Inclusion where
  leafIndex : Int
  /-- Mined if a mined checkpoint covers the leaf. -/
  status : Status
  /-- The root of the latest checkpoint. -/
  root : Bytes
  proof : Tree.Proof Bytes
  valid : Bool
  deriving DecidableEq, Repr

namespace Setup

/-- The leaves that a checkpoint of a count covers.  A negative count leaves out that many at the end. -/
def covered (leaves : List Bytes) (count : Int) : List Bytes :=
  if count < 0 then leaves.take (leaves.length - count.natAbs) else leaves.take count.toNat

/-- The inclusion proof of a commitment, where each of the four readings sees a content of its own. -/
def inclusionProofOver (setup : Setup) (conditions : Conditions)
    (findIn latestIn leavesIn minedIn : Tables) (commitment : Bytes) : Except Failure Inclusion := do
  let index ← Ledger.find findIn commitment
  let latest ← Checkpoints.latest latestIn
  let leaves ← Ledger.leaves conditions leavesIn
  let proof ← (setup.shape.prove (covered leaves latest.identityCount) index).mapError .ofTree
  if proof.root ≠ latest.root then .error (.refused (.proofMismatch proof.root latest.root))
  else
    .ok { leafIndex := index
          status := if index < minedIn.highestMined then .mined else .pending
          root := latest.root
          proof
          valid := proof.verify setup.shape.parent }

def inclusionProof (setup : Setup) (conditions : Conditions) (tables : Tables) (commitment : Bytes) :
    Except Failure Inclusion :=
  setup.inclusionProofOver conditions tables tables tables tables commitment

end Setup

end CommitmentLog
