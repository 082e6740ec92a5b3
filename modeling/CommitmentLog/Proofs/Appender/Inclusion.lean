import CommitmentLog.Appender.Inclusion
import CommitmentLog.Proofs.Ledger.Find
import CommitmentLog.Proofs.Outcome
import CommitmentLog.Proofs.Store.Latest
import CommitmentLog.Proofs.Tree.Path

/-!
# What an inclusion proof says

An inclusion proof that is given tells the truth whatever the tables hold: its leaf is the commitment that was
asked for, which stands at the lowest leaf that has it, and the siblings lead to the latest root.  On
consistent tables one is given for every commitment that is stored, because the proof over all leaves has the
root that appending arrived at.
-/

set_option autoImplicit false

namespace CommitmentLog

open Store

/-- An inclusion proof is about a commitment: it names its lowest leaf, the latest root, and siblings that
lead from the commitment to this root. -/
structure Inclusion.Attests (shape : Tree.Shape Bytes) (tables : Tables) (commitment : Bytes)
    (inclusion : Inclusion) : Prop where
  first : tables.StandsFirst commitment inclusion.leafIndex
  leaf : inclusion.proof.leaf = commitment
  latest : ∃ checkpoint, tables.Latest checkpoint ∧ inclusion.root = checkpoint.root
  root : inclusion.proof.root = inclusion.root
  depth : inclusion.proof.siblings.length = shape.depth
  leads : inclusion.proof.verify shape.parent = true
  valid : inclusion.valid = true

def Inclusion.TellsStatus (tables : Tables) (inclusion : Inclusion) : Prop :=
  inclusion.status = .mined ↔ ∃ checkpoint ∈ tables.checkpoints,
    checkpoint.status = .mined ∧ inclusion.leafIndex < checkpoint.identityCount

namespace Setup

variable {setup : Setup} {conditions : Conditions} {tables : Tables} {commitment : Bytes}
  {inclusion : Inclusion}

theorem covered_eq_take (leaves : List Bytes) (count : Int) :
    ∃ size, covered leaves count = leaves.take size := by
  unfold covered
  split
  · exact ⟨_, rfl⟩
  · exact ⟨_, rfl⟩

theorem inclusionProofOver_ok {findIn latestIn leavesIn minedIn : Tables}
    (given : setup.inclusionProofOver conditions findIn latestIn leavesIn minedIn commitment =
      .ok inclusion) :
    ∃ latest, Ledger.find findIn commitment = .ok inclusion.leafIndex ∧
      latestIn.latest? = some latest ∧ leavesIn.Dense ∧
      setup.shape.prove (covered leavesIn.commitments latest.identityCount) inclusion.leafIndex =
        .ok inclusion.proof ∧
      inclusion.proof.root = latest.root ∧ inclusion.root = latest.root ∧
      inclusion.status = (if inclusion.leafIndex < minedIn.highestMined then .mined else .pending) ∧
      inclusion.valid = inclusion.proof.verify setup.shape.parent := by
  obtain ⟨index, found, afterFind⟩ := bind_ok given
  obtain ⟨latest, latestOk, afterLatest⟩ := bind_ok afterFind
  obtain ⟨leaves, leavesOk, afterLeaves⟩ := bind_ok afterLatest
  obtain ⟨proof, proved, compared⟩ := bind_ok afterLeaves
  obtain ⟨dense, rfl⟩ := Ledger.leaves_ok leavesOk
  have recorded : latestIn.latest? = some latest := by
    unfold Checkpoints.latest at latestOk
    split at latestOk
    case h_1 here => rw [here, Except.ok.inj latestOk]
    case h_2 => cases latestOk
  by_cases agrees : proof.root = latest.root
  · rw [if_neg (not_not_intro agrees)] at compared
    rw [← Except.ok.inj compared]
    exact ⟨latest, found, recorded, dense, mapError_ok proved, agrees, rfl, rfl, rfl⟩
  · rw [if_pos agrees] at compared
    cases compared

theorem tellsStatus_of_inclusionProof {findIn latestIn leavesIn minedIn : Tables}
    (lawful : minedIn.Lawful)
    (given : setup.inclusionProofOver conditions findIn latestIn leavesIn minedIn commitment =
      .ok inclusion) :
    inclusion.TellsStatus minedIn := by
  obtain ⟨_, found, _, _, proved, _, _, status, _⟩ := inclusionProofOver_ok given
  obtain ⟨position, natural, _⟩ := setup.shape.prove_ok proved
  have covers := Tables.lt_highestMined_iff lawful inclusion.leafIndex (by omega)
  rw [Inclusion.TellsStatus, ← covers, status]
  split
  case isTrue before => simp [before]
  case isFalse behind => simp [behind]

theorem attests_of_inclusionProof (lawful : tables.Lawful)
    (fits : tables.identities.length ≤ 2 ^ setup.shape.depth)
    (given : setup.inclusionProof conditions tables commitment = .ok inclusion) :
    inclusion.Attests setup.shape tables commitment := by
  obtain ⟨latest, found, recorded, dense, proved, agrees, root, _, valid⟩ := inclusionProofOver_ok given
  obtain ⟨size, taken⟩ := covered_eq_take tables.commitments latest.identityCount
  rw [taken] at proved
  obtain ⟨position, natural, here, siblings, _⟩ := setup.shape.prove_ok proved
  have first := Ledger.standsFirst_of_find lawful found
  -- The covered leaves are the first ones of the ledger, so the proof is about the same leaf there.
  have stands : tables.commitments[position]? = some commitment :=
    dense.commitment_of_holds (natural ▸ first.stands)
  have leaf : inclusion.proof.leaf = commitment := by
    obtain ⟨inside, same⟩ := List.getElem?_eq_some_iff.mp here
    rw [List.getElem_take] at same
    obtain ⟨_, standing⟩ := List.getElem?_eq_some_iff.mp stands
    exact same.symm.trans standing
  have covers : (tables.commitments.take size).length ≤ 2 ^ setup.shape.depth := by
    have length := Tables.commitments_length tables
    rw [List.length_take]
    omega
  have leads := setup.shape.verify_of_prove covers proved
  exact ⟨first, leaf, ⟨latest, Tables.latest_of_latest? lawful recorded, root⟩, agrees.trans root.symm,
    by rw [siblings, Tree.Shape.length_pathOver], leads, valid.trans leads⟩

/-! ## When it is given -/

theorem inclusionProof_of_not_mem (setup : Setup) (conditions : Conditions)
    (absent : commitment ∉ tables.commitments) :
    setup.inclusionProof conditions tables commitment =
      .error (.refused (.unknownCommitment commitment)) := by
  rw [inclusionProof, inclusionProofOver, Ledger.find_of_not_mem absent]
  rfl

/-- Of a ledger that has grown since, a checkpoint of all identities covers those that it counted. -/
theorem covered_of_grown {latestIn leavesIn : Tables}
    (grown : latestIn.commitments <+: leavesIn.commitments) :
    covered leavesIn.commitments latestIn.identities.length = latestIn.commitments := by
  rw [covered, if_neg (by omega), Int.toNat_natCast, ← Tables.commitments_length]
  exact (List.prefix_iff_eq_take.mp grown).symm

/-- As long as the ledger only grows from one reading to the next, every commitment that the first one sees
has its inclusion proof. -/
theorem inclusionProofOver_of_mem (setup : Setup) (working : conditions.strikes .leaves = false)
    {findIn latestIn leavesIn : Tables} (minedIn : Tables) (findDense : findIn.Dense)
    (lawful : latestIn.Lawful) (consistent : latestIn.Consistent setup.shape)
    (leavesDense : leavesIn.Dense) (grown : findIn.commitments <+: latestIn.commitments)
    (grownAgain : latestIn.commitments <+: leavesIn.commitments)
    (present : commitment ∈ findIn.commitments) :
    ∃ inclusion, setup.inclusionProofOver conditions findIn latestIn leavesIn minedIn commitment =
      .ok inclusion := by
  have size := Tables.commitments_length latestIn
  have nonempty := List.length_pos_of_mem (grown.mem present)
  obtain ⟨leaf, found⟩ := Ledger.find_of_mem present
  obtain ⟨latest, recorded, counted, root⟩ := Tables.latest?_of_consistent consistent (by omega)
  have read := Ledger.leaves_of_dense working leavesDense
  have counts : covered leavesIn.commitments latest.identityCount = latestIn.commitments := by
    rw [counted, covered_of_grown grownAgain]
  -- The commitment stands at the same leaf when the checkpoint is read, which covers it, so there is a
  -- proof, and its root is the latest one.
  have foundLater := Ledger.find_of_grown
    (Tables.identities_prefix findDense consistent.dense grown) found
  have stands := (Ledger.standsFirst_of_find lawful foundLater).stands
  obtain ⟨identity, member, _, standing⟩ := Tables.holds_iff.mp stands
  have natural : leaf = (leaf.toNat : Int) := by
    have fromZero := lawful.leavesFromZero identity member
    omega
  have here := consistent.dense.commitment_of_holds (natural ▸ stands)
  have proved := setup.shape.prove_eq latestIn.commitments leaf.toNat commitment here
  rw [← natural] at proved
  have latestOk : Checkpoints.latest latestIn = .ok latest := by rw [Checkpoints.latest, recorded]
  simp only [inclusionProofOver, found, latestOk, read, counts, proved, bind, Except.bind,
    Except.mapError, root, ne_eq, not_true_eq_false, if_false]
  exact ⟨_, rfl⟩

theorem inclusionProof_of_mem (setup : Setup) (working : conditions.strikes .leaves = false)
    (lawful : tables.Lawful) (consistent : tables.Consistent setup.shape)
    (present : commitment ∈ tables.commitments) :
    ∃ inclusion, setup.inclusionProof conditions tables commitment = .ok inclusion :=
  inclusionProofOver_of_mem setup working tables consistent.dense lawful consistent consistent.dense
    (List.prefix_refl _) (List.prefix_refl _) present

end Setup

end CommitmentLog
