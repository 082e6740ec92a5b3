import CommitmentLog.Proofs.Store.StatusChange

/-!
# Sound tables

Tables are sound if they are lawful and consistent and times go with mined checkpoints.  These are the
tables that the log leaves behind by itself.  Two changes keep them sound: one more commitment with its
checkpoint, provided that the tree has room and the root is new, and a change of status that keeps times
and statuses together.
-/

set_option autoImplicit false

namespace CommitmentLog

open Store

namespace Tables

/-- What holds of tables that were changed by nothing but the log. -/
structure Sound (shape : Tree.Shape Bytes) (tables : Tables) : Prop where
  lawful : tables.Lawful
  consistent : tables.Consistent shape
  timed : ∀ checkpoint ∈ tables.checkpoints, checkpoint.status.Timed checkpoint.minedAt

def nextIdentity (tables : Tables) (commitment : Bytes) : Identity :=
  { leafIndex := tables.identities.length, commitment }

def nextCheckpoint (shape : Tree.Shape Bytes) (tables : Tables) (commitment : Bytes) (now : Civil) :
    Checkpoint :=
  { root := shape.rootOver (tables.commitments ++ [commitment]), lastIdentity := commitment
    lastLeafIndex := tables.identities.length, identityCount := tables.identities.length + 1
    status := .pending, createdAt := .ofCivil now, minedAt := none }

def extended (shape : Tree.Shape Bytes) (tables : Tables) (commitment : Bytes) (now : Civil) : Tables :=
  { identities := tables.identities ++ [tables.nextIdentity commitment]
    checkpoints := tables.checkpoints ++ [tables.nextCheckpoint shape commitment now] }

variable {shape : Tree.Shape Bytes} {tables : Tables} {commitment : Bytes} {now : Civil}

theorem sound_empty (shape : Tree.Shape Bytes) : ({} : Tables).Sound shape :=
  ⟨by decide, ⟨rfl, Nat.zero_le _, rfl, rfl, by simp⟩, by simp⟩

theorem commitments_extended :
    (tables.extended shape commitment now).commitments = tables.commitments ++ [commitment] := by
  simp [commitments, extended, nextIdentity]

/-! ## The order of the rows -/

theorem leafIndex_lt (dense : tables.Dense) (identity : Identity)
    (member : identity ∈ tables.identities) : identity.leafIndex < tables.identities.length := by
  obtain ⟨leaf, inside, here⟩ := List.getElem_of_mem member
  have counted := dense.getElem leaf (by simpa using inside)
  rw [List.getElem_map, here] at counted
  omega

theorem identityCount_le (consistent : tables.Consistent shape) (checkpoint : Checkpoint)
    (member : checkpoint ∈ tables.checkpoints) :
    checkpoint.identityCount ≤ tables.identities.length := by
  obtain ⟨position, inside, here⟩ := List.getElem_of_mem member
  have covered := (consistent.covers position inside).1.1
  rw [here] at covered
  rw [consistent.counted] at inside
  omega

theorem place_nextIdentity (dense : tables.Dense) :
    place (·.leafIndex) (tables.nextIdentity commitment) tables.identities =
      tables.identities ++ [tables.nextIdentity commitment] := by
  apply place_of_last
  intro identity member
  exact le_of_lt (leafIndex_lt dense identity member)

theorem place_nextCheckpoint (consistent : tables.Consistent shape) :
    place (·.identityCount) (tables.nextCheckpoint shape commitment now) tables.checkpoints =
      tables.checkpoints ++ [tables.nextCheckpoint shape commitment now] := by
  apply place_of_last
  intro checkpoint member
  have covered := identityCount_le consistent checkpoint member
  exact le_of_lt (Int.lt_add_one_of_le covered)

/-! ## What the schema takes -/

theorem takes_nextIdentity (dense : tables.Dense) (commitment : Bytes) :
    Schema.declared.identities.takes identityLayout tables.identities
      (tables.nextIdentity commitment) = true := by
  rw [Schema.takes_identity_iff]
  refine ⟨Int.natCast_nonneg _, ?_⟩
  intro identity member
  exact (ne_of_lt (leafIndex_lt dense identity member)).symm

theorem takes_nextCheckpoint (consistent : tables.Consistent shape) (now : Civil)
    (fresh : ∀ checkpoint ∈ tables.checkpoints,
      checkpoint.root ≠ shape.rootOver (tables.commitments ++ [commitment])) :
    Schema.declared.checkpoints.takes checkpointLayout tables.checkpoints
      (tables.nextCheckpoint shape commitment now) = true := by
  rw [Schema.takes_checkpoint_iff]
  refine ⟨rfl, ?_⟩
  intro checkpoint member
  -- The next prefix is longer than all that have a checkpoint, so only the root could be taken already.
  have covered := identityCount_le consistent checkpoint member
  exact ⟨(fresh checkpoint member).symm, (ne_of_lt (Int.lt_add_one_of_le covered)).symm⟩

/-! ## One more commitment -/

theorem Consistent.extended (consistent : tables.Consistent shape)
    (room : tables.identities.length < shape.capacity) :
    (tables.extended shape commitment now).Consistent shape := by
  refine ⟨?_, ?_, ?_, ?_, ?_⟩
  · rw [Dense, Tables.extended, List.map_append, List.map_singleton, countsFrom_concat]
    exact ⟨consistent.dense, by simp [nextIdentity]⟩
  · rw [Tables.extended, List.length_append, List.length_singleton]
    exact room
  · simpa [Tables.extended] using consistent.counted
  · rw [Tables.extended, List.map_append, List.map_singleton, countsFrom_concat]
    refine ⟨consistent.prefixes, ?_⟩
    simp [nextCheckpoint, consistent.counted]
    omega
  · intro checkpoint member
    rw [commitments_extended]
    rcases List.mem_append.mp member with old | new
    · exact (consistent.attested checkpoint old).append [commitment]
    · rw [List.mem_singleton.mp new]
      have size := commitments_length tables
      refine ⟨?_, ?_, ?_⟩
      · simp [nextCheckpoint]
      · simp [nextCheckpoint, ← size]
      · have whole : (tables.commitments ++ [commitment]).length ≤ tables.commitments.length + 1 := by
          simp
        simp [nextCheckpoint, ← size, List.take_of_length_le whole]

theorem Sound.extended (sound : tables.Sound shape)
    (room : tables.identities.length < shape.capacity)
    (fresh : ∀ checkpoint ∈ tables.checkpoints,
      checkpoint.root ≠ shape.rootOver (tables.commitments ++ [commitment])) :
    (tables.extended shape commitment now).Sound shape := by
  have consistent := sound.consistent
  have lawful : (tables.extended shape commitment now).Lawful := by
    rw [Tables.extended, ← place_nextIdentity consistent.dense, ← place_nextCheckpoint consistent]
    have placed := sound.lawful.insertIdentity (takes_nextIdentity consistent.dense commitment)
    exact placed.insertCheckpoint (takes_nextCheckpoint consistent now fresh)
  refine ⟨lawful, consistent.extended room, ?_⟩
  intro checkpoint member
  rcases List.mem_append.mp member with old | new
  · exact sound.timed checkpoint old
  · rw [List.mem_singleton.mp new]
    simp [nextCheckpoint, Status.Timed]

/-! ## Changes of status -/

theorem Sound.withStatusSet (sound : tables.Sound shape) (root : Bytes)
    (selector : Assignment CheckpointColumn) (status : Status) (minedAt : Option Timestamp)
    (timed : status.Timed minedAt) :
    (Statement.withStatusSet root selector status minedAt tables).Sound shape := by
  have claims := Statement.sameClaims_withStatusSet root selector status minedAt tables
  refine ⟨claims.lawful sound.lawful, claims.consistent sound.consistent, ?_⟩
  intro checkpoint member
  obtain ⟨old, oldMember, rfl⟩ := List.mem_map.mp member
  split
  · exact timed
  · exact sound.timed old oldMember

end Tables

end CommitmentLog
