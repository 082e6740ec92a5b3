import CommitmentLog.Proofs.Appender.History
import CommitmentLog.Proofs.Appender.Undisturbed

/-!
# What the verdict says

On consistent tables the verdict on a commitment is known before any root is computed.  A full tree refuses
it.  Padding behind a ledger that is not empty leaves the latest root as it is, and no root is recorded
twice, so it is refused for good.  Anything else has a new root, unless the function that joins two nodes
collides on a pair of the tree to be and a pair of the tree over an earlier prefix.
-/

set_option autoImplicit false

namespace CommitmentLog.Tables

open Store

variable {shape : Tree.Shape Bytes} {tables : Tables} {commitment : Bytes} {now : Civil}

theorem withRoot?_isSome_iff (consistent : tables.Consistent shape) (root : Bytes) :
    (tables.withRoot? root).isSome ↔
      ∃ position < tables.commitments.length,
        shape.rootOver (tables.commitments.take (position + 1)) = root := by
  rw [withRoot?, List.find?_isSome, commitments_length, ← consistent.counted]
  constructor
  · intro recorded
    obtain ⟨checkpoint, member, same⟩ := recorded
    obtain ⟨position, inside, rfl⟩ := List.getElem_of_mem member
    exact ⟨position, inside, (consistent.covers position inside).2.symm.trans (of_decide_eq_true same)⟩
  · intro recorded
    obtain ⟨position, inside, same⟩ := recorded
    exact ⟨tables.checkpoints[position], List.getElem_mem inside,
      decide_eq_true ((consistent.covers position inside).2.trans same)⟩

theorem withRoot?_latest (consistent : tables.Consistent shape)
    (present : 1 ≤ tables.identities.length) :
    (tables.withRoot? (shape.rootOver tables.commitments)).isSome := by
  have size := commitments_length tables
  rw [withRoot?_isSome_iff consistent]
  refine ⟨tables.commitments.length - 1, by omega, ?_⟩
  rw [Nat.sub_add_cancel (by omega), List.take_length]

/-- A prefix whose root is that of the ledger with one more commitment, which is not padding, shows a
collision. -/
theorem collision_of_prefix (room : tables.identities.length < shape.capacity)
    (notPadding : commitment ≠ shape.emptyLeaf) (count : Nat)
    (upTo : count ≤ tables.identities.length)
    (shared : shape.rootOver (tables.commitments.take count) =
      shape.rootOver (tables.commitments ++ [commitment])) :
    ∃ pairs, shape.rootCollision? (tables.commitments.take count)
        (tables.commitments ++ [commitment]) = some pairs ∧ shape.Collide pairs.1 pairs.2 := by
  rw [← commitments_length] at room upTo
  cases search : shape.rootCollision? (tables.commitments.take count)
      (tables.commitments ++ [commitment]) with
  | some pairs =>
      exact ⟨pairs, rfl, shape.collide_of_collision? _ _ _ _ pairs shared search⟩
  | none =>
      -- Without a collision both trees have the same leaf where the new commitment stands.
      have same := shape.leafAt_eq_of_rootOver_eq _ _ shared search tables.commitments.length room
      have behind : (tables.commitments.take count)[tables.commitments.length]? = none := by
        rw [List.getElem?_eq_none_iff, List.length_take]
        omega
      have padding : shape.leafAt (tables.commitments.take count) tables.commitments.length =
          shape.emptyLeaf := by
        rw [Tree.Shape.leafAt, List.getD_eq_getElem?_getD, behind, Option.getD_none]
      have last : shape.leafAt (tables.commitments ++ [commitment]) tables.commitments.length =
          commitment := by
        simp [Tree.Shape.leafAt]
      exact absurd (last.symm.trans (same.symm.trans padding)) notPadding

theorem collision_of_withRoot? (consistent : tables.Consistent shape)
    (room : tables.identities.length < shape.capacity) (notPadding : commitment ≠ shape.emptyLeaf)
    (recorded : (tables.withRoot? (shape.rootOver (tables.commitments ++ [commitment]))).isSome) :
    ∃ count pairs, 1 ≤ count ∧ count ≤ tables.identities.length ∧
      shape.rootCollision? (tables.commitments.take count) (tables.commitments ++ [commitment]) =
        some pairs ∧ shape.Collide pairs.1 pairs.2 := by
  obtain ⟨position, inside, same⟩ := (withRoot?_isSome_iff consistent _).mp recorded
  rw [commitments_length] at inside
  obtain ⟨pairs, found⟩ := collision_of_prefix room notPadding (position + 1) inside same
  exact ⟨position + 1, pairs, Nat.le_add_left 1 position, inside, found⟩

theorem fits_of_shallow (shallow : shape.depth ≤ 62)
    (room : tables.identities.length < shape.capacity) :
    Statement.fits (tables.identities.length + 1) = true := by
  have most : shape.capacity ≤ 2 ^ 62 := Nat.pow_le_pow_right (by decide) shallow
  rw [Statement.fits_iff]
  omega

theorem verdict_of_full (full : tables.identities.length = shape.capacity) :
    tables.verdict shape commitment now = .error (.refused (.treeFull shape.depth)) := by
  rw [verdict, if_pos (Nat.le_of_eq full.symm)]

theorem verdict_of_padding (consistent : tables.Consistent shape)
    (room : tables.identities.length < shape.capacity) (present : 1 ≤ tables.identities.length) :
    tables.verdict shape shape.emptyLeaf now =
      .error (.refused (.rootRecorded (shape.rootOver tables.commitments))) := by
  have recorded := withRoot?_latest consistent present
  rw [verdict, if_neg (Nat.not_le_of_lt room), shape.rootOver_append_emptyLeaf, if_pos recorded]

theorem verdict_of_other (now : Civil) (shallow : shape.depth ≤ 62)
    (consistent : tables.Consistent shape) (room : tables.identities.length < shape.capacity)
    (other : ¬(1 ≤ tables.identities.length ∧ commitment = shape.emptyLeaf)) :
    tables.verdict shape commitment now = .ok (tables.nextCheckpoint shape commitment now) ∨
      tables.verdict shape commitment now =
          .error (.refused (.rootRecorded (shape.rootOver (tables.commitments ++ [commitment])))) ∧
        ∃ count pairs, 1 ≤ count ∧ count ≤ tables.identities.length ∧
          shape.rootCollision? (tables.commitments.take count)
            (tables.commitments ++ [commitment]) = some pairs ∧ shape.Collide pairs.1 pairs.2 := by
  rw [verdict, if_neg (Nat.not_le_of_lt room)]
  split
  case isTrue recorded =>
    right
    refine ⟨rfl, ?_⟩
    have present : 1 ≤ tables.identities.length := by
      obtain ⟨position, inside, _⟩ := (withRoot?_isSome_iff consistent _).mp recorded
      rw [← commitments_length]
      exact Nat.lt_of_le_of_lt (Nat.zero_le position) inside
    have notPadding : commitment ≠ shape.emptyLeaf := fun padding => other ⟨present, padding⟩
    exact collision_of_withRoot? consistent room notPadding recorded
  case isFalse =>
    left
    rw [if_pos (fits_of_shallow shallow room)]

end CommitmentLog.Tables
