import CommitmentLog.Proofs.Ledger.Find
import CommitmentLog.Proofs.Store.Sound

/-!
# Tables that continue others

Tables continue earlier ones if nothing that was stored has been taken back: the earlier identities are the
first of the later ones, and every earlier checkpoint is still there and has changed at most from pending to
mined.  What leads from tables to later ones starts from regular tables, about which the roots of the
checkpoints say nothing: they may come from a hasher that makes them up, or from whoever inserts them.
-/

set_option autoImplicit false

namespace CommitmentLog

open Store

/-- What becomes of a checkpoint: it says the same of its prefix, and once mined it stays as it is. -/
structure Checkpoint.Becomes (earlier later : Checkpoint) : Prop where
  claim : later.claim = earlier.claim
  createdAt : later.createdAt = earlier.createdAt
  mined : earlier.status = .mined → later.status = .mined ∧ later.minedAt = earlier.minedAt

theorem Checkpoint.Becomes.refl (checkpoint : Checkpoint) : checkpoint.Becomes checkpoint :=
  ⟨rfl, rfl, fun mined => ⟨mined, rfl⟩⟩

theorem Checkpoint.Becomes.trans {first second third : Checkpoint} (before : first.Becomes second)
    (after : second.Becomes third) : first.Becomes third := by
  refine ⟨after.claim.trans before.claim, after.createdAt.trans before.createdAt, ?_⟩
  intro mined
  obtain ⟨minedNext, sameTime⟩ := before.mined mined
  obtain ⟨minedLast, sameTimeLast⟩ := after.mined minedNext
  exact ⟨minedLast, sameTimeLast.trans sameTime⟩

namespace Tables

structure Continues (earlier later : Tables) : Prop where
  identities : earlier.identities <+: later.identities
  checkpoints : ∀ checkpoint ∈ earlier.checkpoints,
    ∃ kept ∈ later.checkpoints, checkpoint.Becomes kept

/-- Tables whose identities came by appending and whose checkpoints have a time exactly if mined. -/
structure Regular (tables : Tables) : Prop where
  lawful : tables.Lawful
  dense : tables.Dense
  timed : ∀ checkpoint ∈ tables.checkpoints, checkpoint.status.Timed checkpoint.minedAt

def LeadsTo (before after : Tables) : Prop :=
  before.Regular → after.Regular ∧ before.Continues after

variable {first second third tables : Tables}

theorem regular_empty : ({} : Tables).Regular :=
  ⟨by decide, countsFrom_nil 0, by simp⟩

theorem Continues.refl (tables : Tables) : tables.Continues tables :=
  ⟨List.prefix_refl _, fun checkpoint member => ⟨checkpoint, member, .refl checkpoint⟩⟩

theorem Continues.trans (before : first.Continues second) (after : second.Continues third) :
    first.Continues third := by
  refine ⟨before.identities.trans after.identities, ?_⟩
  intro checkpoint member
  obtain ⟨next, nextMember, becomesNext⟩ := before.checkpoints checkpoint member
  obtain ⟨last, lastMember, becomesLast⟩ := after.checkpoints next nextMember
  exact ⟨last, lastMember, becomesNext.trans becomesLast⟩

theorem LeadsTo.refl (tables : Tables) : tables.LeadsTo tables :=
  fun regular => ⟨regular, .refl tables⟩

theorem LeadsTo.trans (before : first.LeadsTo second) (after : second.LeadsTo third) :
    first.LeadsTo third := by
  intro regular
  obtain ⟨regularNext, continuesNext⟩ := before regular
  obtain ⟨regularLast, continuesLast⟩ := after regularNext
  exact ⟨regularLast, continuesNext.trans continuesLast⟩

/-! ## One more row -/

theorem leadsTo_insertIdentity (tables : Tables) (commitment : Bytes) :
    tables.LeadsTo { tables with
      identities := place (·.leafIndex) (tables.nextIdentity commitment) tables.identities } := by
  intro regular
  -- In a dense ledger the next leaf stands behind all others, so placing it there is appending.
  have lawful := regular.lawful.insertIdentity (takes_nextIdentity regular.dense commitment)
  rw [place_nextIdentity regular.dense] at lawful ⊢
  refine ⟨⟨lawful, ?_, regular.timed⟩, ⟨List.prefix_append _ _, (Continues.refl tables).checkpoints⟩⟩
  rw [Dense, List.map_append, List.map_singleton, countsFrom_concat]
  exact ⟨regular.dense, by simp [nextIdentity]⟩

theorem leadsTo_insertCheckpoint {checkpoint : Checkpoint}
    (timed : checkpoint.status.Timed checkpoint.minedAt)
    (taken : Schema.declared.checkpoints.takes checkpointLayout tables.checkpoints checkpoint = true) :
    tables.LeadsTo { tables with
      checkpoints := place (·.identityCount) checkpoint tables.checkpoints } := by
  intro regular
  refine ⟨⟨regular.lawful.insertCheckpoint taken, regular.dense, ?_⟩, ⟨List.prefix_refl _, ?_⟩⟩
  · intro other member
    rcases mem_place.mp member with rfl | old
    · exact timed
    · exact regular.timed other old
  · intro other member
    exact ⟨other, mem_place.mpr (Or.inr member), .refl other⟩

/-! ## What can be read off later -/

theorem Continues.covered (continues : first.Continues second) {leaf : Int}
    (covered : ∃ checkpoint ∈ first.checkpoints,
      checkpoint.status = .mined ∧ leaf < checkpoint.identityCount) :
    ∃ checkpoint ∈ second.checkpoints,
      checkpoint.status = .mined ∧ leaf < checkpoint.identityCount := by
  obtain ⟨checkpoint, member, mined, before⟩ := covered
  obtain ⟨kept, keptMember, becomes⟩ := continues.checkpoints checkpoint member
  have samePrefix : kept.identityCount = checkpoint.identityCount :=
    congrArg (fun claim => claim.2.2.2) becomes.claim
  exact ⟨kept, keptMember, (becomes.mined mined).1, samePrefix ▸ before⟩

/-! ## Sound tables at two times -/

structure Grows (shape : Tree.Shape Bytes) (earlier later : Tables) : Prop where
  before : earlier.Sound shape
  after : later.Sound shape
  commitments : earlier.commitments <+: later.commitments

namespace Grows

variable {shape : Tree.Shape Bytes}

theorem trans (early : first.Grows shape second) (late : second.Grows shape third) :
    first.Grows shape third :=
  ⟨early.before, late.after, early.commitments.trans late.commitments⟩

theorem identities (grows : first.Grows shape second) : first.identities <+: second.identities :=
  identities_prefix grows.before.consistent.dense grows.after.consistent.dense grows.commitments

theorem commitments_eq_of_length (grows : first.Grows shape second)
    (same : first.identities.length = second.identities.length) :
    first.commitments = second.commitments := by
  rw [← commitments_length, ← commitments_length] at same
  exact grows.commitments.eq_of_length same

theorem standsFirst (grows : first.Grows shape second) {commitment : Bytes} {leaf : Int}
    (found : Ledger.find first commitment = .ok leaf) : second.StandsFirst commitment leaf :=
  Ledger.standsFirst_of_find grows.after.lawful (Ledger.find_of_grown grows.identities found)

end Grows

end Tables

end CommitmentLog
