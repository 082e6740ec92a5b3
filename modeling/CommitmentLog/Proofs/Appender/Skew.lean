import CommitmentLog.Proofs.Appender.Audit
import CommitmentLog.Proofs.Appender.Undisturbed
import CommitmentLog.Proofs.Store.Continues

/-!
# Readings that another appender comes between

Loading the tree takes two readings, the leaves and then the latest checkpoint, and so does an audit, the
leaves and then all checkpoints.  The lock of an appender does not keep other appenders of the store from
committing between the two.  If none does, the readings agree.  If one does, the checkpoints are ahead of the
leaves, and what is a sound store at both times is taken for one that contradicts itself.
-/

set_option autoImplicit false

namespace CommitmentLog

namespace Setup

variable {setup : Setup} {conditions : Conditions} {earlier later : Tables}

section Readings

variable (grows : earlier.Grows setup.shape later) (reads : conditions.strikes .leaves = false)

include grows reads

theorem leaves_of_same_length (same : earlier.identities.length = later.identities.length) :
    Ledger.leaves conditions earlier = Ledger.leaves conditions later := by
  rw [Ledger.leaves_of_dense reads grows.before.consistent.dense,
    Ledger.leaves_of_dense reads grows.after.consistent.dense, grows.commitments_eq_of_length same]

theorem loadTreeOver_of_same_length (same : earlier.identities.length = later.identities.length) :
    setup.loadTreeOver conditions earlier later = setup.loadTree conditions later := by
  rw [loadTree, loadTreeOver, loadTreeOver, leaves_of_same_length grows reads same]

theorem auditOver_of_same_length (same : earlier.identities.length = later.identities.length) :
    setup.auditOver conditions earlier later = setup.auditOver conditions later later := by
  rw [auditOver, auditOver, leaves_of_same_length grows reads same]

/-! ## When an append comes between the readings -/

theorem loadTreeOver_of_longer (longer : earlier.identities.length < later.identities.length) :
    setup.loadTreeOver conditions earlier later =
      .error (.refused (.countMismatch later.identities.length earlier.identities.length)) := by
  have read := Ledger.leaves_of_dense reads grows.before.consistent.dense
  have fits := grows.before.consistent.fits
  have rebuilt := setup.shape.rebuild_eq earlier.commitments
  rw [Tables.commitments_length, if_pos fits] at rebuilt
  have size : (setup.shape.stateOver earlier.commitments).size = earlier.identities.length := by
    rw [Tree.Shape.stateOver_size, Tables.commitments_length]
  obtain ⟨latest, recorded, counted, _⟩ :=
    Tables.latest?_of_consistent grows.after.consistent (by omega)
  have mismatch : latest.identityCount ≠ (setup.shape.stateOver earlier.commitments).size := by
    rw [counted, size]
    omega
  simp only [loadTreeOver, read, rebuilt, recorded, accept, mismatch, bind, Except.bind,
    Except.mapError, ne_eq, not_false_eq_true, if_true]
  rw [counted, size]

omit reads in
theorem matchFrom_of_grows :
    MatchFrom setup.shape earlier.commitments 0
      (later.checkpoints.take earlier.commitments.length) := by
  intro position checkpoint here
  have fits := grows.before.consistent.fits
  rw [← Tables.commitments_length] at fits
  have before : position < earlier.commitments.length := by
    have bound := (List.getElem?_eq_some_iff.mp here).1
    rw [List.length_take] at bound
    omega
  rw [List.getElem?_take_of_lt before] at here
  obtain ⟨known, rfl⟩ := List.getElem?_eq_some_iff.mp here
  have covers := grows.after.consistent.covers position known
  obtain ⟨more, grown⟩ := grows.commitments
  rw [← grown] at covers
  rw [Nat.zero_add]
  exact ⟨lt_of_lt_of_le before fits, covers.of_append before⟩

end Readings

theorem auditFrom_append (works : conditions.HasherWorks) (leaves : List Bytes) (start : Nat)
    (matched rest : List Checkpoint) (matching : MatchFrom setup.shape leaves start matched) :
    setup.auditFrom conditions leaves (start + 1) (setup.shape.stateOver (leaves.take start))
        (matched ++ rest) =
      setup.auditFrom conditions leaves (start + matched.length + 1)
        (setup.shape.stateOver (leaves.take (start + matched.length))) rest := by
  induction matched generalizing start with
  | nil => rfl
  | cons first others inductionHypothesis =>
      obtain ⟨head, tail⟩ := (matchFrom_cons start first others).mp matching
      rw [List.cons_append, auditFrom]
      rcases auditOne_cases setup works leaves start first with
        ⟨_, passed⟩ | ⟨full, _⟩ | ⟨noMatch, _⟩
      · rw [passed]
        simp only
        rw [inductionHypothesis (start + 1) tail, List.length_cons, Nat.add_right_comm start 1,
          Nat.add_assoc start others.length 1]
      · exact absurd head.1 (Nat.not_lt.mpr full)
      · exact absurd head noMatch

theorem auditOne_beyond (setup : Setup) (conditions : Conditions) {leaves : List Bytes}
    {checkpoint : Checkpoint} (counted : checkpoint.identityCount = (leaves.length + 1 : Nat))
    (tree : Tree.State Bytes) :
    setup.auditOne conditions leaves (leaves.length + 1) tree checkpoint =
      .error (.refused (.beyondLedger (leaves.length + 1 : Nat))) := by
  simp [auditOne, counted]

/-- The checkpoints of the earlier ledger match, and the next one is for a leaf that was not read. -/
theorem auditOver_of_longer (grows : earlier.Grows setup.shape later)
    (reads : conditions.strikes .leaves = false) (works : conditions.HasherWorks)
    (longer : earlier.identities.length < later.identities.length) :
    setup.auditOver conditions earlier later =
      .error (.refused (.beyondLedger (earlier.identities.length + 1 : Nat))) := by
  have read := Ledger.leaves_of_dense reads grows.before.consistent.dense
  have consistent := grows.after.consistent
  rw [← Tables.commitments_length earlier] at longer ⊢
  have inside : earlier.commitments.length < later.checkpoints.length := by
    rw [consistent.counted]
    exact longer
  have beyond := auditOne_beyond setup conditions (consistent.covers _ inside).1.1
  have passed := auditFrom_append works earlier.commitments 0 _
    (later.checkpoints.drop earlier.commitments.length) (matchFrom_of_grows grows)
  rw [List.take_append_drop, List.length_take, Nat.min_eq_left (Nat.le_of_lt inside),
    Nat.zero_add earlier.commitments.length, List.drop_eq_getElem_cons inside, List.take_zero,
    ← Tree.Shape.empty_eq, auditFrom, beyond] at passed
  simp only [auditOver, read, passed, bind, Except.bind]

/-! ## The tree that an append loads -/

/-- An append loads its tree over two readings: the first ones if it keeps none, the later ones if the tree
that it has does not fit the count. -/
def LoadsOver (setup : Setup) (conditions : Conditions) (seen : Sightings)
    (kept : Option (Tree.State Bytes)) (leavesIn latestIn : Tables) : Prop :=
  (kept = none ∧ leavesIn = seen.leaves ∧ latestIn = seen.latest) ∨
    (conditions.strikes .count = false ∧ leavesIn = seen.leavesAgain ∧ latestIn = seen.latestAgain ∧
      ∃ tree, (kept.map .ok).getD (setup.loadTreeOver conditions seen.leaves seen.latest) = .ok tree ∧
        (seen.count.identities.length : Int) ≠ tree.size)

theorem currentTreeOver_of_loadsOver {seen : Sightings} {kept : Option (Tree.State Bytes)}
    {leavesIn latestIn : Tables} (loads : setup.LoadsOver conditions seen kept leavesIn latestIn)
    {failure : Failure} (failed : setup.loadTreeOver conditions leavesIn latestIn = .error failure) :
    setup.currentTreeOver conditions seen kept = .error failure := by
  rcases loads with ⟨rfl, rfl, rfl⟩ | ⟨counts, rfl, rfl, tree, had, unfit⟩
  · simp [currentTreeOver, failed, bind, Except.bind]
  · simp [currentTreeOver, Ledger.count, counts, had, unfit, failed, bind, Except.bind]

end Setup

/-! ## The appender mistakes growth for a contradiction -/

namespace Appender

open Setup (Sightings)

variable {setup : Setup} {conditions : Conditions} {earlier later : Tables} {appender : Appender}

def stoppedBy (refusal : Refusal) (appender : Appender) : Appender :=
  { appender with halted := some refusal.wording, tree := none }

theorem afterFailure_of_violation {refusal : Refusal}
    (violation : refusal.category = .integrityViolation) :
    appender.afterFailure (.refused refusal) = appender.stoppedBy refusal := by
  simp only [afterFailure, violation, if_true, stoppedBy]

section Mistakes

variable (grows : earlier.Grows setup.shape later) (reads : conditions.strikes .leaves = false)
  (longer : earlier.identities.length < later.identities.length) (free : appender.enter setup = .ok ())

include grows reads longer free

theorem recoverOver_of_longer (running : appender.halted = none) :
    let mistaken : Refusal := .countMismatch later.identities.length earlier.identities.length
    appender.recoverOver setup conditions earlier later =
      (.error (.refused mistaken), appender.stoppedBy mistaken) := by
  intro mistaken
  have failed := Setup.loadTreeOver_of_longer grows reads longer
  have stopped : appender.afterFailure (.refused mistaken) = _ := afterFailure_of_violation rfl
  simp only [recoverOver_eq, free, Appender.running, running, failed, retriable]
  rw [stopped]

theorem auditOver_of_longer (works : conditions.HasherWorks) :
    let mistaken : Refusal := .beyondLedger (earlier.identities.length + 1 : Nat)
    appender.auditOver setup conditions earlier later =
      (.error (.refused mistaken), appender.stoppedBy mistaken) := by
  intro mistaken
  have failed := Setup.auditOver_of_longer grows reads works longer
  have stopped : appender.afterFailure (.refused mistaken) = _ := afterFailure_of_violation rfl
  simp only [auditOver_eq, free, failed, retriable]
  rw [stopped]

theorem appendOver_of_longer (running : appender.halted = none) {seen : Sightings}
    (loads : setup.LoadsOver conditions seen appender.tree earlier later) (clock : Binary)
    (tables : Tables) (commitment : Bytes) :
    let mistaken : Refusal := .countMismatch later.identities.length earlier.identities.length
    appender.appendOver setup conditions clock seen tables commitment =
      { result := .error (.refused mistaken), appender := appender.stoppedBy mistaken, tables
        clock } := by
  intro mistaken
  have failed := Setup.currentTreeOver_of_loadsOver loads
    (Setup.loadTreeOver_of_longer grows reads longer)
  have transaction : setup.transactionOver conditions clock seen appender.tree commitment (.start tables) =
      (.error (.refused mistaken), .start tables, clock) := by
    simp only [Setup.transactionOver, Setup.writeOver, failed, mistaken]
    rfl
  have stopped : appender.afterFailure (.refused mistaken) = _ := afterFailure_of_violation rfl
  simp only [appendOver_eq, free, Appender.running, running, transaction, retriable]
  rw [stopped]
  rfl

end Mistakes

end Appender

end CommitmentLog
