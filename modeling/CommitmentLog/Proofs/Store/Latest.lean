import CommitmentLog.Proofs.Store.Consistent

/-!
# The latest checkpoint and the mined ones

Checkpoints are kept in the order of their prefixes, so the last one covers the longest prefix, and the last
mined one the longest that is mined.  A leaf is covered by a mined checkpoint exactly if it stands before the
end of that prefix.
-/

set_option autoImplicit false

namespace CommitmentLog.Tables

variable {shape : Tree.Shape Bytes} {tables : Tables}

theorem identityCount_le_getLast? {checkpoints : List Checkpoint} {latest : Checkpoint}
    (ordered : checkpoints.Pairwise fun first second => first.identityCount < second.identityCount)
    (last : checkpoints.getLast? = some latest) :
    ∀ other ∈ checkpoints, other.identityCount ≤ latest.identityCount := by
  obtain ⟨earlier, rfl⟩ := List.getLast?_eq_some_iff.mp last
  intro other member
  rcases List.mem_append.mp member with before | here
  · have behind := (List.pairwise_append.mp ordered).2.2 other before latest (by simp)
    omega
  · rw [List.mem_singleton.mp here]

/-- A checkpoint covers the longest prefix that has one. -/
structure Latest (tables : Tables) (checkpoint : Checkpoint) : Prop where
  recorded : checkpoint ∈ tables.checkpoints
  longest : ∀ other ∈ tables.checkpoints, other.identityCount ≤ checkpoint.identityCount

theorem latest_of_latest? (lawful : tables.Lawful) {latest : Checkpoint}
    (last : tables.latest? = some latest) : tables.Latest latest :=
  ⟨List.mem_of_getLast? last, identityCount_le_getLast? lawful.prefixes last⟩

theorem latest?_eq_some_iff (lawful : tables.Lawful) (checkpoint : Checkpoint) :
    tables.latest? = some checkpoint ↔ tables.Latest checkpoint := by
  constructor
  · exact latest_of_latest? lawful
  · intro latest
    cases last : tables.latest? with
    | none =>
        rw [latest?, List.getLast?_eq_none_iff] at last
        have recorded := latest.recorded
        rw [last] at recorded
        cases recorded
    | some other =>
        -- Both cover the longest prefix, and a prefix has one checkpoint.
        have alike := latest_of_latest? lawful last
        have atMost := alike.longest checkpoint latest.recorded
        have atLeast := latest.longest other alike.recorded
        rw [lawful.eq_of_identityCount alike.recorded latest.recorded (by omega)]

theorem latest?_of_consistent (consistent : tables.Consistent shape)
    (present : 1 ≤ tables.identities.length) :
    ∃ latest, tables.latest? = some latest ∧ latest.identityCount = tables.identities.length ∧
      latest.root = shape.rootOver tables.commitments := by
  have size := commitments_length tables
  cases last : tables.latest? with
  | none =>
      rw [latest?, List.getLast?_eq_none_iff] at last
      have counted := consistent.counted
      rw [last, List.length_nil] at counted
      omega
  | some latest =>
      rw [latest?, List.getLast?_eq_getElem?] at last
      obtain ⟨inside, here⟩ := List.getElem?_eq_some_iff.mp last
      obtain ⟨⟨counted, _⟩, root⟩ := consistent.covers _ inside
      rw [here, Nat.sub_add_cancel (by omega), consistent.counted] at counted root
      rw [← size, List.take_length] at root
      exact ⟨latest, rfl, counted, root⟩

/-! ## The longest mined prefix -/

theorem mem_withStatus {checkpoint : Checkpoint} {status : Status} :
    checkpoint ∈ tables.withStatus status ↔
      checkpoint ∈ tables.checkpoints ∧ checkpoint.status = status := by
  simp [withStatus]

theorem lt_highestMined_iff (lawful : tables.Lawful) (leaf : Int) (natural : 0 ≤ leaf) :
    leaf < tables.highestMined ↔ ∃ checkpoint ∈ tables.checkpoints,
      checkpoint.status = .mined ∧ leaf < checkpoint.identityCount := by
  have ordered : (tables.withStatus .mined).Pairwise fun first second =>
      first.identityCount < second.identityCount := lawful.prefixes.filter _
  cases last : (tables.withStatus .mined).getLast? with
  | none =>
      rw [List.getLast?_eq_none_iff] at last
      have none : ¬∃ checkpoint ∈ tables.checkpoints,
          checkpoint.status = .mined ∧ leaf < checkpoint.identityCount := by
        intro ⟨checkpoint, member, mined, _⟩
        have among := mem_withStatus.mpr ⟨member, mined⟩
        rw [last] at among
        cases among
      simp [highestMined, last, none, natural]
  | some latest =>
      have highest : tables.highestMined = latest.identityCount := by rw [highestMined, last]
      rw [highest]
      constructor
      · intro before
        obtain ⟨member, mined⟩ := mem_withStatus.mp (List.mem_of_getLast? last)
        exact ⟨latest, member, mined, before⟩
      · intro ⟨checkpoint, member, mined, before⟩
        have upTo := identityCount_le_getLast? ordered last checkpoint
          (mem_withStatus.mpr ⟨member, mined⟩)
        omega

end CommitmentLog.Tables
