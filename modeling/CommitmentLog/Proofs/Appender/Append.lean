import CommitmentLog.Proofs.Appender.Transaction
import CommitmentLog.Proofs.Appender.Trees
import CommitmentLog.Proofs.Checkpoints.Insert
import CommitmentLog.Proofs.Ledger.Append

/-!
# The stages of an append

Each stage of an append has one lemma that says what its success means; together they give `transaction_ok`.
`append_cases` lists the four courses that a whole append can take.
-/

set_option autoImplicit false

namespace CommitmentLog

open Store

namespace Setup

variable {setup : Setup} {conditions : Conditions} {tables : Tables} {commitment : Bytes}

/-- The tree that an append extends: the one that is kept if it has as many leaves as there are identities,
and otherwise the one over all commitments of a dense ledger that fits. -/
def Extends (setup : Setup) (tables : Tables) (kept : Option (Tree.State Bytes))
    (tree : Tree.State Bytes) : Prop :=
  (kept = some tree ∧ tree.size = tables.identities.length) ∨
    (∀ other, kept = some other → other.size ≠ tables.identities.length) ∧ tables.Dense ∧
      tables.identities.length ≤ setup.shape.capacity ∧
      tree = setup.shape.stateOver tables.commitments

theorem currentTree_origin {kept : Option (Tree.State Bytes)} {leaf : Nat} {tree : Tree.State Bytes}
    (current : setup.currentTree conditions tables kept = .ok (leaf, tree)) :
    leaf = tables.identities.length ∧
      ((kept = some tree ∧ tree.size = tables.identities.length) ∨
        (∀ other, kept = some other → other.size ≠ tables.identities.length) ∧
          setup.loadTree conditions tables = .ok tree) := by
  obtain ⟨first, firstOk, counting⟩ := bind_ok current
  obtain ⟨counted, countOk, choice⟩ := bind_ok counting
  rw [Ledger.count_ok countOk] at choice
  clear current counting
  cases kept with
  | none =>
      -- Whether or not the tree is loaded a second time, it is the tree that was loaded.
      have loaded : setup.loadTree conditions tables = .ok first := firstOk
      split at choice
      · cases choice
        exact ⟨rfl, Or.inr ⟨by simp, loaded⟩⟩
      · rw [loaded] at choice
        cases choice
        exact ⟨rfl, Or.inr ⟨by simp, loaded⟩⟩
  | some kept =>
      have same : kept = first := Except.ok.inj firstOk
      subst same
      split at choice
      case isTrue fits =>
        cases choice
        exact ⟨rfl, Or.inl ⟨rfl, fits.symm⟩⟩
      case isFalse stale =>
        obtain ⟨loaded, loadedOk, chosen⟩ := bind_ok choice
        cases chosen
        refine ⟨rfl, Or.inr ⟨?_, loadedOk⟩⟩
        intro other keeps fits
        cases keeps
        exact stale fits.symm

theorem currentTree_ok {kept : Option (Tree.State Bytes)} {leaf : Nat} {tree : Tree.State Bytes}
    (current : setup.currentTree conditions tables kept = .ok (leaf, tree)) :
    leaf = tables.identities.length ∧ setup.Extends tables kept tree := by
  obtain ⟨leafEq, kept | ⟨unfit, loaded⟩⟩ := currentTree_origin current
  · exact ⟨leafEq, Or.inl kept⟩
  · exact ⟨leafEq, Or.inr ⟨unfit, loadTree_ok loaded⟩⟩

theorem prepare_ok {kept : Option (Tree.State Bytes)} {prepared : Prepared}
    (ok : setup.prepare conditions tables kept commitment = .ok prepared) :
    let identity : Identity := { leafIndex := tables.identities.length, commitment }
    prepared.leaf = tables.identities.length ∧
      (∃ tree, setup.Extends tables kept tree ∧
        setup.extend conditions tree commitment = .ok prepared.tree) ∧
      setup.schema.identities.takes identityLayout tables.identities identity = true ∧
      prepared.tables =
        { tables with identities := place (·.leafIndex) identity tables.identities } := by
  obtain ⟨⟨leaf, tree⟩, currentOk, appending⟩ := bind_ok ok
  obtain ⟨⟨next, written⟩, appendedOk, extending⟩ := bind_ok appending
  obtain ⟨extended, extendedOk, finished⟩ := bind_ok extending
  obtain ⟨leafEq, origin⟩ := currentTree_ok currentOk
  obtain ⟨nextEq, taken, placed⟩ := Ledger.append_ok appendedOk
  subst nextEq
  rw [← Except.ok.inj finished]
  exact ⟨leafEq, ⟨tree, origin, extendedOk⟩, taken, placed⟩

theorem record_ok {prepared : Prepared} {seconds : Binary} {appended : Appended}
    (ok : setup.record conditions commitment prepared seconds = .ok appended) :
    ∃ now, conditions.now.toUniversal? = some now ∧
      appended.tree = prepared.tree ∧
      appended.checkpoint =
        { root := prepared.tree.root, lastIdentity := commitment, lastLeafIndex := prepared.leaf
          identityCount := prepared.leaf + 1, status := .pending, createdAt := .ofCivil now
          minedAt := none } ∧
      setup.schema.checkpoints.takes checkpointLayout prepared.tables.checkpoints
        appended.checkpoint = true ∧
      appended.tables =
        { prepared.tables with
          checkpoints :=
            place (·.identityCount) appended.checkpoint prepared.tables.checkpoints } := by
  obtain ⟨⟨checkpoint, written⟩, insertedOk, finishing⟩ := bind_ok ok
  simp only at finishing
  split at finishing
  · cases finishing
  · split at finishing
    · cases finishing
    · rw [← Except.ok.inj finishing]
      obtain ⟨now, minedAt, nowOk, minedOk, recorded, taken, placed⟩ :=
        Checkpoints.insert_ok insertedOk
      cases minedOk
      refine ⟨now, nowOk, rfl, ?_, taken, placed⟩
      rw [recorded]
      simp

/-- What an append stores: the identity at the next leaf and the checkpoint of the prefix that ends there,
with the root of the tree that it will keep. -/
structure Stores (setup : Setup) (conditions : Conditions) (tables : Tables)
    (kept : Option (Tree.State Bytes)) (commitment : Bytes) (appended : Appended) : Prop where
  tree : ∃ base, setup.Extends tables kept base ∧
    setup.extend conditions base commitment = .ok appended.tree
  checkpoint : ∃ now, conditions.now.toUniversal? = some now ∧
    appended.checkpoint =
      { root := appended.tree.root, lastIdentity := commitment
        lastLeafIndex := tables.identities.length, identityCount := tables.identities.length + 1
        status := .pending, createdAt := .ofCivil now, minedAt := none }
  identityTaken : setup.schema.identities.takes identityLayout tables.identities
    { leafIndex := tables.identities.length, commitment } = true
  checkpointTaken : setup.schema.checkpoints.takes checkpointLayout tables.checkpoints
    appended.checkpoint = true
  tables : appended.tables =
    { identities :=
        place (·.leafIndex) { leafIndex := tables.identities.length, commitment } tables.identities
      checkpoints := place (·.identityCount) appended.checkpoint tables.checkpoints }

theorem transaction_ok {clock later : Binary} {kept : Option (Tree.State Bytes)} {appended : Appended}
    (ok : setup.transaction conditions clock tables kept commitment = (.ok appended, later)) :
    setup.Stores conditions tables kept commitment appended := by
  unfold transaction at ok
  split at ok
  case h_1 => cases ok
  case h_2 prepared preparedOk =>
    obtain ⟨leafEq, ⟨base, origin, extendOk⟩, identityTaken, identityPlaced⟩ := prepare_ok preparedOk
    obtain ⟨now, nowOk, treeEq, recorded, checkpointTaken, checkpointPlaced⟩ :=
      record_ok (congrArg Prod.fst ok)
    rw [identityPlaced] at checkpointTaken checkpointPlaced
    rw [leafEq, ← treeEq] at recorded
    rw [← treeEq] at extendOk
    exact ⟨⟨base, origin, extendOk⟩, ⟨now, nowOk, recorded⟩, identityTaken, checkpointTaken,
      checkpointPlaced⟩

end Setup

namespace Appender

variable {setup : Setup} {conditions : Conditions} {clock : Binary} {tables : Tables}
  {appender : Appender} {commitment : Bytes}

theorem afterFailure_cases (appender : Appender) (failure : Failure) :
    (∃ refusal, retriable failure = .refused refusal ∧ refusal.category = .integrityViolation ∧
        appender.afterFailure failure =
          { appender with halted := some refusal.wording, tree := none }) ∨
      (∀ refusal, retriable failure = .refused refusal → refusal.category ≠ .integrityViolation) ∧
        appender.afterFailure failure = appender := by
  cases failure with
  | refused refusal =>
      by_cases violation : refusal.category = .integrityViolation
      · left
        exact ⟨refusal, rfl, violation, by rw [afterFailure, if_pos violation]⟩
      · right
        refine ⟨?_, by rw [afterFailure, if_neg violation]⟩
        intro other told
        cases told
        exact violation
  | database error =>
      right
      refine ⟨?_, rfl⟩
      intro other told
      cases told
      simp [Refusal.category]
  | _ =>
      right
      refine ⟨?_, rfl⟩
      intro other told
      cases told

/-! ## The whole append -/

/-- Everything that one append can come to: no entry, a refusal because the appender has stopped, a
transaction that fails, or one that is committed. -/
theorem append_cases (setup : Setup) (conditions : Conditions) (clock : Binary) (tables : Tables)
    (appender : Appender) (commitment : Bytes) :
    (∃ failure, appender.enter setup = .error failure ∧
        appender.append setup conditions clock tables commitment =
          { result := .error failure, appender, tables, clock }) ∨
      (∃ reason, appender.halted = some reason ∧
        appender.append setup conditions clock tables commitment =
          { result := .error (.refused (.halted reason)), appender, tables, clock }) ∨
      (appender.enter setup = .ok () ∧ appender.halted = none ∧ ∃ cause later,
        setup.transaction conditions clock tables appender.tree commitment = (.error cause, later) ∧
        appender.append setup conditions clock tables commitment =
          { result := .error (retriable cause), appender := appender.afterFailure cause, tables
            clock := later }) ∨
      (appender.enter setup = .ok () ∧ appender.halted = none ∧ ∃ appended later,
        setup.transaction conditions clock tables appender.tree commitment = (.ok appended, later) ∧
        appender.append setup conditions clock tables commitment =
          { result := .ok appended.checkpoint
            appender := { appender with tree := some appended.tree }
            tables := appended.tables, clock := later }) := by
  cases entered : appender.enter setup with
  | error failure => exact Or.inl ⟨failure, rfl, by simp [append_eq, entered]⟩
  | ok =>
      right
      cases halted : appender.halted with
      | some reason =>
          have stopped : appender.running = .error (.refused (.halted reason)) := by
            simp [running, halted]
          exact Or.inl ⟨reason, rfl, by simp [append_eq, entered, stopped]⟩
      | none =>
          have runs : appender.running = .ok () := by simp [running, halted]
          right
          rcases carried : setup.transaction conditions clock tables appender.tree commitment with
            ⟨cause | appended, later⟩
          · exact Or.inl ⟨rfl, rfl, cause, later, rfl, by simp [append_eq, entered, runs, carried]⟩
          · refine Or.inr ⟨rfl, rfl, appended, later, rfl, ?_⟩
            simp [append_eq, entered, runs, carried, halted]

theorem append_of_halted (entered : appender.enter setup = .ok ()) {reason : String}
    (halted : appender.halted = some reason) (commitment : Bytes) :
    appender.append setup conditions clock tables commitment =
      { result := .error (.refused (.halted reason)), appender, tables, clock } := by
  simp [append_eq, entered, running, halted]

end Appender

end CommitmentLog
