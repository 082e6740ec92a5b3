import CommitmentLog.Appender.Recovery
import CommitmentLog.Proofs.Ledger.Dense
import CommitmentLog.Proofs.Outcome
import CommitmentLog.Proofs.Tree.Frontier

/-!
# The trees of an appender

A tree that has been loaded is the tree over all commitments of a dense ledger that fits, and the hasher
takes the tree over a list of commitments to the tree over the list with one more.  The hasher may crash,
but it is trusted not to make roots up.
-/

set_option autoImplicit false

namespace CommitmentLog

/-- The hasher answers every append, and as the tree does. -/
structure Conditions.HasherWorks (conditions : Conditions) : Prop where
  runs : conditions.strikes .hasherCrash = false
  honest : conditions.strikes .hasherStuck = false

namespace Setup

variable {setup : Setup} {conditions : Conditions} {tables : Tables} {tree : Tree.State Bytes}

/-! ## Loading -/

theorem accept_ok {leaves : List Bytes} {rebuilt : Tree.State Bytes} {latest : Option Checkpoint}
    (accepted : accept leaves rebuilt latest = .ok tree) : tree = rebuilt := by
  unfold accept at accepted
  split at accepted
  · split at accepted
    · exact (Except.ok.inj accepted).symm
    · cases accepted
  · split at accepted
    · cases accepted
    · split at accepted
      · cases accepted
      · exact (Except.ok.inj accepted).symm

theorem loadTree_ok (loaded : setup.loadTree conditions tables = .ok tree) :
    tables.Dense ∧ tables.identities.length ≤ setup.shape.capacity ∧
      tree = setup.shape.stateOver tables.commitments := by
  obtain ⟨leaves, leavesOk, loaded⟩ := bind_ok loaded
  obtain ⟨rebuilt, rebuiltOk, loaded⟩ := bind_ok loaded
  obtain ⟨dense, rfl⟩ := Ledger.leaves_ok leavesOk
  obtain ⟨fits, state⟩ := setup.shape.rebuild_ok (mapError_ok rebuiltOk)
  rw [Tables.commitments, List.length_map] at fits
  exact ⟨dense, fits, (accept_ok (mapError_ok loaded)).trans state⟩

/-! ## Extending -/

theorem extend_of_room (setup : Setup) (works : conditions.HasherWorks) (leaves : List Bytes)
    (leaf : Bytes) (room : leaves.length < setup.shape.capacity) :
    setup.extend conditions (setup.shape.stateOver leaves) leaf =
      .ok (setup.shape.stateOver (leaves ++ [leaf])) := by
  simp [extend, works.runs, works.honest, setup.shape.append_stateOver leaves leaf room]

theorem extend_of_full (setup : Setup) (works : conditions.HasherWorks) (leaves : List Bytes)
    (leaf : Bytes) (full : setup.shape.capacity ≤ leaves.length) :
    setup.extend conditions (setup.shape.stateOver leaves) leaf =
      .error (.refused (.treeFull setup.shape.depth)) := by
  have size : (setup.shape.capacity : Int) ≤ (setup.shape.stateOver leaves).size := by
    simp only [Tree.Shape.stateOver]
    omega
  simp [extend, works.runs, setup.shape.append_of_full _ leaf size, Failure.ofTree]

theorem extend_ok (honest : conditions.strikes .hasherStuck = false) {leaves : List Bytes}
    {leaf : Bytes}
    (extended : setup.extend conditions (setup.shape.stateOver leaves) leaf = .ok tree) :
    leaves.length < setup.shape.capacity ∧ tree = setup.shape.stateOver (leaves ++ [leaf]) := by
  cases crash : conditions.strikes .hasherCrash with
  | true => simp [extend, crash] at extended
  | false =>
      by_cases room : leaves.length < setup.shape.capacity
      · rw [extend_of_room setup ⟨crash, honest⟩ leaves leaf room] at extended
        exact ⟨room, (Except.ok.inj extended).symm⟩
      · rw [extend_of_full setup ⟨crash, honest⟩ leaves leaf (Nat.le_of_not_lt room)] at extended
        cases extended

end Setup

end CommitmentLog
