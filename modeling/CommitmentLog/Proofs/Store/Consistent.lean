import CommitmentLog.Proofs.Ledger.Dense
import CommitmentLog.Proofs.Store.Lawful
import CommitmentLog.Tree.Reference
import Mathlib.Data.List.Sort

/-!
# Consistent tables

The tables are consistent if the ledger is dense and fits into the tree, and every prefix of it has one
checkpoint, which names the last identity of the prefix and the root over it.  No other checkpoint is
there.

`consistent_iff_ofPrefix?` says the same by looking checkpoints up by the length of their prefix.  It needs
lawful tables: if as many checkpoints as identities are there and each prefix has one, no other length can
be among them.
-/

set_option autoImplicit false

namespace CommitmentLog

/-- What a checkpoint says of its prefix, apart from when it was recorded and published. -/
def Checkpoint.claim (checkpoint : Checkpoint) : Bytes × Bytes × Int × Int :=
  (checkpoint.root, checkpoint.lastIdentity, checkpoint.lastLeafIndex, checkpoint.identityCount)

/-- A checkpoint names the last leaf, the last identity and the root of the prefix it covers. -/
structure Checkpoint.Attests (shape : Tree.Shape Bytes) (leaves : List Bytes)
    (checkpoint : Checkpoint) : Prop where
  lastLeafIndex : checkpoint.lastLeafIndex = checkpoint.identityCount - 1
  lastIdentity : leaves[(checkpoint.identityCount - 1).toNat]? = some checkpoint.lastIdentity
  root : checkpoint.root = shape.rootOver (leaves.take checkpoint.identityCount.toNat)

def Checkpoint.NamesLeaf (leaves : List Bytes) (position : Nat) (checkpoint : Checkpoint) : Prop :=
  checkpoint.identityCount = (position + 1 : Nat) ∧
    leaves[position]? = some checkpoint.lastIdentity

/-- A checkpoint names the leaf at a position and has the root over the prefix that ends there. -/
def Checkpoint.Covers (shape : Tree.Shape Bytes) (leaves : List Bytes) (position : Nat)
    (checkpoint : Checkpoint) : Prop :=
  checkpoint.NamesLeaf leaves position ∧ checkpoint.root = shape.rootOver (leaves.take (position + 1))

namespace Checkpoint

variable {shape : Tree.Shape Bytes} {leaves : List Bytes} {checkpoint : Checkpoint}

theorem Attests.append (attests : checkpoint.Attests shape leaves) (more : List Bytes) :
    checkpoint.Attests shape (leaves ++ more) := by
  obtain ⟨inside, _⟩ := List.getElem?_eq_some_iff.mp attests.lastIdentity
  refine ⟨attests.lastLeafIndex, ?_, ?_⟩
  · rw [List.getElem?_append_left inside]
    exact attests.lastIdentity
  · rw [List.take_append_of_le_length (by omega)]
    exact attests.root

theorem Attests.covers (attests : checkpoint.Attests shape leaves) (position : Nat)
    (counted : checkpoint.identityCount = (position + 1 : Nat)) :
    checkpoint.Covers shape leaves position := by
  have lastIdentity := attests.lastIdentity
  have root := attests.root
  rw [counted] at lastIdentity root
  exact ⟨⟨counted, by simpa using lastIdentity⟩, root⟩

theorem Covers.of_append {position : Nat} {more : List Bytes} (inside : position < leaves.length)
    (covers : checkpoint.Covers shape (leaves ++ more) position) :
    checkpoint.Covers shape leaves position := by
  obtain ⟨⟨counted, named⟩, root⟩ := covers
  rw [List.getElem?_append_left inside] at named
  rw [List.take_append_of_le_length (by omega)] at root
  exact ⟨⟨counted, named⟩, root⟩

theorem Covers.attests {position : Nat} (covers : checkpoint.Covers shape leaves position)
    (lastLeaf : checkpoint.identityCount = checkpoint.lastLeafIndex + 1) :
    checkpoint.Attests shape leaves := by
  obtain ⟨⟨counted, named⟩, root⟩ := covers
  refine ⟨by omega, ?_, ?_⟩
  · rw [counted]
    simpa using named
  · rw [counted]
    exact root

end Checkpoint

namespace Tables

/-- Every prefix of a dense ledger has its checkpoint, and no other checkpoint is there. -/
structure Consistent (shape : Tree.Shape Bytes) (tables : Tables) : Prop where
  dense : tables.Dense
  fits : tables.identities.length ≤ shape.capacity
  counted : tables.checkpoints.length = tables.identities.length
  prefixes : CountsFrom 1 (tables.checkpoints.map (·.identityCount))
  attested : ∀ checkpoint ∈ tables.checkpoints, checkpoint.Attests shape tables.commitments

variable {shape : Tree.Shape Bytes} {tables : Tables}

theorem commitments_length (tables : Tables) :
    tables.commitments.length = tables.identities.length :=
  List.length_map ..

/-! ## Position by position -/

theorem Consistent.covers (consistent : tables.Consistent shape) (position : Nat)
    (inside : position < tables.checkpoints.length) :
    (tables.checkpoints[position]).Covers shape tables.commitments position := by
  have counted := consistent.prefixes.getElem position (by simpa using inside)
  rw [List.getElem_map, Nat.add_comm] at counted
  exact (consistent.attested _ (List.getElem_mem inside)).covers position counted

theorem consistent_iff_covers (lawful : tables.Lawful) :
    tables.Consistent shape ↔
      tables.Dense ∧ tables.identities.length ≤ shape.capacity ∧
        tables.checkpoints.length = tables.identities.length ∧
        ∀ (position : Nat) (inside : position < tables.checkpoints.length),
          (tables.checkpoints[position]).Covers shape tables.commitments position := by
  constructor
  · intro consistent
    exact ⟨consistent.dense, consistent.fits, consistent.counted, consistent.covers⟩
  · intro each
    obtain ⟨dense, fits, counted, covers⟩ := each
    refine ⟨dense, fits, counted, ?_, ?_⟩
    · apply countsFrom_of_getElem
      intro position inside
      rw [List.length_map] at inside
      rw [List.getElem_map, (covers position inside).1.1, Nat.add_comm]
    · intro checkpoint member
      obtain ⟨position, inside, rfl⟩ := List.getElem_of_mem member
      exact (covers position inside).attests (lawful.lastLeaves _ member)

/-! ## Looking checkpoints up -/

/-- Increasing numbers that include as many consecutive numbers as they are are these numbers. -/
theorem countsFrom_of_complete (start : Nat) (numbers : List Int)
    (increasing : numbers.Pairwise (· < ·))
    (complete : ∀ position < numbers.length, ((start + position : Nat) : Int) ∈ numbers) :
    CountsFrom start numbers := by
  let wanted := (List.range' start numbers.length).map fun number : Nat => (number : Int)
  have wantedIncreasing : wanted.Pairwise (· < ·) := by
    rw [List.pairwise_map]
    exact List.Pairwise.imp (fun before => by omega) (List.pairwise_lt_range' 1)
  have distinct : wanted.Nodup := wantedIncreasing.imp fun before => by omega
  have included : wanted ⊆ numbers := by
    intro number member
    obtain ⟨origin, inRange, rfl⟩ := List.mem_map.mp member
    obtain ⟨position, inside, rfl⟩ := List.mem_range'.mp inRange
    simpa using complete position inside
  have sameLength : numbers.length ≤ wanted.length := by simp [wanted]
  have permuted : wanted.Perm numbers :=
    (List.subperm_of_subset distinct included).perm_of_length_le sameLength
  refine (List.Perm.eq_of_pairwise ?_ wantedIncreasing increasing permuted).symm
  intro first second _ _ before after
  omega

theorem ofPrefix?_eq_some_iff (lawful : tables.Lawful) (count : Int) (checkpoint : Checkpoint) :
    tables.ofPrefix? count = some checkpoint ↔
      checkpoint ∈ tables.checkpoints ∧ checkpoint.identityCount = count := by
  constructor
  · intro found
    exact ⟨List.mem_of_find?_eq_some found, by simpa using List.find?_some found⟩
  · intro found
    obtain ⟨member, covers⟩ := found
    have present : (tables.ofPrefix? count).isSome := by
      rw [ofPrefix?, List.find?_isSome]
      exact ⟨checkpoint, member, by simpa using covers⟩
    obtain ⟨other, found⟩ := Option.isSome_iff_exists.mp present
    have otherMember := List.mem_of_find?_eq_some found
    have otherCovers : other.identityCount = count := by simpa using List.find?_some found
    have only := lawful.eq_of_identityCount member otherMember (covers.trans otherCovers.symm)
    rw [found, only]

/-- Tables are consistent if the dense ledger fits, there are as many checkpoints as identities, and for
each length from one on a checkpoint of that length names the last identity and the root of its prefix. -/
theorem consistent_iff_ofPrefix? (shape : Tree.Shape Bytes) (lawful : tables.Lawful) :
    tables.Consistent shape ↔
      tables.Dense ∧ tables.identities.length ≤ shape.capacity ∧
        tables.checkpoints.length = tables.identities.length ∧
        ∀ count, 1 ≤ count → count ≤ tables.identities.length →
          ∃ checkpoint, tables.ofPrefix? count = some checkpoint ∧
            tables.commitments[count - 1]? = some checkpoint.lastIdentity ∧
            checkpoint.root = shape.rootOver (tables.commitments.take count) := by
  rw [consistent_iff_covers lawful]
  constructor
  · intro each
    obtain ⟨dense, fits, counted, covers⟩ := each
    refine ⟨dense, fits, counted, ?_⟩
    intro count fromOne upTo
    have inside : count - 1 < tables.checkpoints.length := by omega
    obtain ⟨⟨covered, named⟩, root⟩ := covers (count - 1) inside
    rw [Nat.sub_add_cancel fromOne] at covered root
    exact ⟨_, (ofPrefix?_eq_some_iff lawful count _).mpr ⟨List.getElem_mem inside, covered⟩, named,
      root⟩
  · intro each
    obtain ⟨dense, fits, counted, complete⟩ := each
    have prefixes : CountsFrom 1 (tables.checkpoints.map (·.identityCount)) := by
      apply countsFrom_of_complete
      · rw [List.pairwise_map]
        exact lawful.prefixes
      · intro position inside
        rw [List.length_map, counted] at inside
        obtain ⟨checkpoint, found, _⟩ := complete (1 + position) (by omega) (by omega)
        obtain ⟨member, covered⟩ := (ofPrefix?_eq_some_iff lawful _ _).mp found
        exact List.mem_map.mpr ⟨checkpoint, member, covered⟩
    refine ⟨dense, fits, counted, ?_⟩
    intro position inside
    have covered := prefixes.getElem position (by simpa using inside)
    rw [List.getElem_map, Nat.add_comm] at covered
    obtain ⟨checkpoint, found, named, root⟩ := complete (position + 1) (by omega) (by omega)
    -- The checkpoint that is found by its length is the one that stands at the position.
    have here := (ofPrefix?_eq_some_iff lawful _ _).mpr ⟨List.getElem_mem inside, covered⟩
    rw [found] at here
    rw [← Option.some.inj here] at covered ⊢
    exact ⟨⟨covered, named⟩, root⟩

end Tables

end CommitmentLog
