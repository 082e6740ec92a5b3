import CommitmentLog.Proofs.Store.Insertion
import Mathlib.Data.List.Nodup

/-!
# Lawful tables

Tables are lawful if they keep the rules of the schema that speak of the rows of one table: no leaf, no
root and no prefix stands in two rows, leaves are not negative, and the length of a prefix is one more than
its last leaf.  `lawful_iff_admitted` ties this to the definitions that the schema gives.  The reference
from a checkpoint to its identity is not part of it, because rows may have been changed past it.
-/

set_option autoImplicit false

namespace CommitmentLog

open Store

/-- The rules for the rows of each table.  The order is the one in which tables are kept. -/
structure Tables.Lawful (tables : Tables) : Prop where
  leaves : tables.identities.Pairwise fun first second => first.leafIndex < second.leafIndex
  leavesFromZero : ∀ identity ∈ tables.identities, 0 ≤ identity.leafIndex
  prefixes : tables.checkpoints.Pairwise fun first second =>
    first.identityCount < second.identityCount
  roots : tables.checkpoints.Pairwise fun first second => first.root ≠ second.root
  lastLeaves : ∀ checkpoint ∈ tables.checkpoints,
    checkpoint.identityCount = checkpoint.lastLeafIndex + 1

instance (tables : Tables) : Decidable tables.Lawful :=
  decidable_of_iff (_ ∧ _ ∧ _ ∧ _ ∧ _)
    ⟨fun ⟨leaves, zero, prefixes, roots, last⟩ => ⟨leaves, zero, prefixes, roots, last⟩,
      fun ⟨leaves, zero, prefixes, roots, last⟩ => ⟨leaves, zero, prefixes, roots, last⟩⟩

namespace Tables.Lawful

variable {tables : Tables} {first second : Checkpoint}

theorem eq_of_identityCount (lawful : tables.Lawful) (firstMember : first ∈ tables.checkpoints)
    (secondMember : second ∈ tables.checkpoints)
    (same : first.identityCount = second.identityCount) : first = second := by
  have distinct : (tables.checkpoints.map (·.identityCount)).Nodup :=
    List.pairwise_map.mpr (lawful.prefixes.imp fun before => by omega)
  exact List.inj_on_of_nodup_map distinct firstMember secondMember same

theorem eq_of_root (lawful : tables.Lawful) (firstMember : first ∈ tables.checkpoints)
    (secondMember : second ∈ tables.checkpoints) (same : first.root = second.root) :
    first = second :=
  List.inj_on_of_nodup_map (List.pairwise_map.mpr lawful.roots) firstMember secondMember same

end Tables.Lawful

namespace Store.Schema

/-! ## What the schema says of two rows -/

theorem conforms_identity (identity : Identity) :
    declared.identities.conforms (identityCells identity) = decide (0 ≤ identity.leafIndex) := by
  simp [declared, Definition.conforms, ColumnRule.admits, Check.passes, identityCells]

theorem clash_identities (first second : Identity) :
    declared.identities.clash (identityCells first) (identityCells second) =
      decide (first.leafIndex = second.leafIndex) := by
  by_cases same : first.leafIndex = second.leafIndex <;>
    simp [declared, Definition.clash, Definition.distinct, Definition.keyColumns, Definition.share,
      identityCells, same]

theorem conforms_checkpoint (checkpoint : Checkpoint) :
    declared.checkpoints.conforms (checkpointCells checkpoint) =
      decide (checkpoint.identityCount = checkpoint.lastLeafIndex + 1) := by
  have known : checkpoint.status.text ∈ statusValues := by
    cases checkpoint.status <;> decide
  simp [declared, Definition.conforms, ColumnRule.admits, Check.passes, checkpointCells, known]

theorem clash_checkpoints (first second : Checkpoint) :
    declared.checkpoints.clash (checkpointCells first) (checkpointCells second) =
      decide (first.root = second.root ∨ first.identityCount = second.identityCount) := by
  by_cases sameRoot : first.root = second.root <;>
    by_cases samePrefix : first.identityCount = second.identityCount <;>
      simp [declared, Definition.clash, Definition.distinct, Definition.keyColumns,
        Definition.share, checkpointCells, sameRoot, samePrefix]

theorem takes_identity_iff (identities : List Identity) (identity : Identity) :
    declared.identities.takes identityLayout identities identity = true ↔
      0 ≤ identity.leafIndex ∧ ∀ other ∈ identities, identity.leafIndex ≠ other.leafIndex := by
  simp [Definition.takes, identityLayout, conforms_identity, clash_identities]

theorem takes_checkpoint_iff (checkpoints : List Checkpoint) (checkpoint : Checkpoint) :
    declared.checkpoints.takes checkpointLayout checkpoints checkpoint = true ↔
      checkpoint.identityCount = checkpoint.lastLeafIndex + 1 ∧
        ∀ other ∈ checkpoints, checkpoint.root ≠ other.root ∧
          checkpoint.identityCount ≠ other.identityCount := by
  simp [Definition.takes, checkpointLayout, conforms_checkpoint, clash_checkpoints]

end Store.Schema

namespace Tables

open Store.Schema

/-- Lawful tables are those that the schema admits, kept in order. -/
theorem lawful_iff_admitted (tables : Tables) :
    tables.Lawful ↔
      admitted identityLayout declared.identities tables.identities = true ∧
        admitted checkpointLayout declared.checkpoints tables.checkpoints = true ∧
        (tables.identities.Pairwise fun first second => first.leafIndex ≤ second.leafIndex) ∧
        tables.checkpoints.Pairwise fun first second =>
          first.identityCount ≤ second.identityCount := by
  simp only [admitted, identityLayout, checkpointLayout, conforms_identity, clash_identities,
    conforms_checkpoint, clash_checkpoints, Bool.and_eq_true, List.all_eq_true, decide_eq_true_eq,
    decide_eq_false_iff_not, not_or]
  constructor
  · intro lawful
    refine ⟨⟨lawful.leavesFromZero, ?_⟩, ⟨lawful.lastLeaves, ?_⟩, ?_, ?_⟩
    · exact lawful.leaves.imp fun before => by omega
    · exact (lawful.roots.and lawful.prefixes).imp fun both => ⟨both.1, by omega⟩
    · exact lawful.leaves.imp fun before => by omega
    · exact lawful.prefixes.imp fun before => by omega
  · intro admitted
    obtain ⟨⟨fromZero, differ⟩, ⟨lastLeaves, distinct⟩, leavesOrdered, prefixesOrdered⟩ := admitted
    refine ⟨?_, fromZero, ?_, ?_, lastLeaves⟩
    · exact (leavesOrdered.and differ).imp fun both => by omega
    · exact (prefixesOrdered.and distinct).imp fun both => by omega
    · exact distinct.imp fun both => both.1

/-! ## One more row -/

variable {tables : Tables}

theorem Lawful.insertIdentity (lawful : tables.Lawful) {identity : Identity}
    (taken : declared.identities.takes identityLayout tables.identities identity = true) :
    ({ tables with
      identities := place (·.leafIndex) identity tables.identities } : Tables).Lawful := by
  obtain ⟨natural, vacant⟩ := (takes_identity_iff _ _).mp taken
  have ordered := pairwise_place (·.leafIndex) identity tables.identities lawful.leaves vacant
  refine ⟨ordered, ?_, lawful.prefixes, lawful.roots, lawful.lastLeaves⟩
  intro other member
  rcases mem_place.mp member with rfl | old
  · exact natural
  · exact lawful.leavesFromZero other old

theorem Lawful.insertCheckpoint (lawful : tables.Lawful) {checkpoint : Checkpoint}
    (taken : declared.checkpoints.takes checkpointLayout tables.checkpoints checkpoint = true) :
    ({ tables with
      checkpoints := place (·.identityCount) checkpoint tables.checkpoints } : Tables).Lawful := by
  obtain ⟨successor, apart⟩ := (takes_checkpoint_iff _ _).mp taken
  refine ⟨lawful.leaves, lawful.leavesFromZero, ?_, ?_, ?_⟩
  · exact pairwise_place _ checkpoint _ lawful.prefixes fun other member => (apart other member).2
  · have distinct : (checkpoint :: tables.checkpoints).Pairwise fun first second =>
        first.root ≠ second.root :=
      List.pairwise_cons.mpr ⟨fun other member => (apart other member).1, lawful.roots⟩
    exact (place_perm _ _ _).symm.pairwise distinct fun differ => differ.symm
  · intro other member
    rcases mem_place.mp member with rfl | old
    · exact successor
    · exact lawful.lastLeaves other old

/-! ## Fewer rows -/

theorem Lawful.filterCheckpoints (lawful : tables.Lawful) (keeps : Checkpoint → Bool) :
    ({ tables with checkpoints := tables.checkpoints.filter keeps } : Tables).Lawful :=
  ⟨lawful.leaves, lawful.leavesFromZero, lawful.prefixes.filter keeps, lawful.roots.filter keeps,
    fun checkpoint member => lawful.lastLeaves checkpoint (List.mem_of_mem_filter member)⟩

end Tables

end CommitmentLog
