import CommitmentLog.Proofs.Ledger.Dense
import CommitmentLog.Proofs.Store.Lawful

/-!
# Finding a commitment

Identities are kept in the order of their leaves, so the first one with a commitment stands at the lowest
leaf that has it.  In a dense ledger the leaf is also the place in the list.
-/

set_option autoImplicit false

namespace CommitmentLog

variable {tables : Tables} {commitment : Bytes}

namespace Tables

structure StandsFirst (tables : Tables) (commitment : Bytes) (leaf : Int) : Prop where
  stands : tables.holds commitment leaf = true
  lowest : ∀ other, tables.holds commitment other = true → leaf ≤ other

theorem holds_iff {leaf : Int} :
    tables.holds commitment leaf = true ↔
      ∃ identity ∈ tables.identities, identity.commitment = commitment ∧
        identity.leafIndex = leaf := by
  simp [holds]

theorem mem_commitments_iff :
    commitment ∈ tables.commitments ↔
      ∃ identity ∈ tables.identities, identity.commitment = commitment :=
  List.mem_map

/-- The commitments of a dense ledger tell its identities, because the leaves are their places. -/
theorem Dense.identities_eq (dense : tables.Dense) :
    tables.identities =
      tables.commitments.mapIdx fun leaf commitment => { leafIndex := leaf, commitment } := by
  apply List.ext_getElem
  · simp [commitments]
  · intro leaf inside _
    have counted := dense.getElem leaf (by simpa using inside)
    rw [List.getElem_map, Nat.zero_add] at counted
    simp [commitments, ← counted]

theorem identities_prefix {earlier later : Tables} (earlierDense : earlier.Dense)
    (laterDense : later.Dense) (grown : earlier.commitments <+: later.commitments) :
    earlier.identities <+: later.identities := by
  obtain ⟨more, grown⟩ := grown
  rw [earlierDense.identities_eq, laterDense.identities_eq, ← grown, List.mapIdx_append]
  exact List.prefix_append _ _

theorem Dense.commitment_of_holds (dense : tables.Dense) {leaf : Nat}
    (held : tables.holds commitment leaf = true) : tables.commitments[leaf]? = some commitment := by
  obtain ⟨identity, member, same, standing⟩ := holds_iff.mp held
  obtain ⟨position, inside, here⟩ := List.getElem_of_mem member
  have counted := dense.getElem position (by simpa using inside)
  rw [List.getElem_map, here, standing] at counted
  have place : position = leaf := by omega
  simp [commitments, ← place, inside, here, same]

end Tables

namespace Ledger

theorem find_of_not_mem (absent : commitment ∉ tables.commitments) :
    find tables commitment = .error (.refused (.unknownCommitment commitment)) := by
  have nowhere : tables.identities.find? (fun identity => identity.commitment = commitment) = none := by
    rw [List.find?_eq_none]
    intro identity member same
    exact absent (Tables.mem_commitments_iff.mpr ⟨identity, member, of_decide_eq_true same⟩)
  rw [find, nowhere]

theorem find_of_mem (present : commitment ∈ tables.commitments) :
    ∃ leaf, find tables commitment = .ok leaf := by
  obtain ⟨identity, member, same⟩ := Tables.mem_commitments_iff.mp present
  have somewhere : (tables.identities.find? fun identity => identity.commitment = commitment).isSome := by
    rw [List.find?_isSome]
    exact ⟨identity, member, decide_eq_true same⟩
  obtain ⟨first, found⟩ := Option.isSome_iff_exists.mp somewhere
  exact ⟨first.leafIndex, by rw [find, found]⟩

theorem find_ok {leaf : Int} (found : find tables commitment = .ok leaf) :
    ∃ identity, tables.identities.find? (fun identity => identity.commitment = commitment) =
      some identity ∧ identity.leafIndex = leaf := by
  unfold find at found
  split at found
  case h_1 identity here => exact ⟨identity, here, Except.ok.inj found⟩
  case h_2 => cases found

theorem find_of_grown {earlier later : Tables} (grown : earlier.identities <+: later.identities)
    {leaf : Int} (found : find earlier commitment = .ok leaf) : find later commitment = .ok leaf := by
  obtain ⟨identity, here, standing⟩ := find_ok found
  obtain ⟨more, grown⟩ := grown
  rw [find, ← grown, List.find?_append, here]
  exact congrArg Except.ok standing

theorem standsFirst_of_find (lawful : tables.Lawful) {leaf : Int}
    (found : find tables commitment = .ok leaf) : tables.StandsFirst commitment leaf := by
  obtain ⟨first, here, rfl⟩ := find_ok found
  obtain ⟨same, before, behind, split, others⟩ := List.find?_eq_some_iff_append.mp here
  have ordered := lawful.leaves
  rw [split] at ordered
  refine ⟨Tables.holds_iff.mpr ⟨first, List.mem_of_find?_eq_some here, of_decide_eq_true same, rfl⟩, ?_⟩
  intro other held
  obtain ⟨identity, member, sameCommitment, rfl⟩ := Tables.holds_iff.mp held
  -- An identity before the first one has another commitment, and those behind it have higher leaves.
  rw [split] at member
  rcases List.mem_append.mp member with earlier | later
  · have differs := others identity earlier
    simp [sameCommitment] at differs
  · rcases List.mem_cons.mp later with rfl | later
    · exact Int.le_refl _
    · have above := (List.pairwise_cons.mp (List.pairwise_append.mp ordered).2.1).1 identity later
      omega

end Ledger

end CommitmentLog
