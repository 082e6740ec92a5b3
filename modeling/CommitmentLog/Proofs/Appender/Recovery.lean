import CommitmentLog.Proofs.Appender.Audit
import CommitmentLog.Proofs.Appender.Append
import CommitmentLog.Proofs.Store.Latest

/-!
# What a recovery accepts

A recovery reads all leaves but only the latest checkpoint, so it accepts more than an audit: a dense ledger
that fits the tree and whose latest checkpoint covers all of it with the right root, whatever the checkpoints
of shorter prefixes say.  A ledger that is dense but too long leaves the appender as it was; anything else
stops it.  An append through a tree that does not fit the store comes upon the same test before it writes.
-/

set_option autoImplicit false

namespace CommitmentLog

variable {shape : Tree.Shape Bytes} {tables : Tables}

/-! ## The test -/

namespace Tables

/-- The latest checkpoint covers all identities and has the root over them, or nothing is stored at all. -/
def LatestCovers (shape : Tree.Shape Bytes) (tables : Tables) : Prop :=
  (tables.identities = [] ∧ tables.checkpoints = []) ∨
    ∃ latest, tables.Latest latest ∧ latest.identityCount = tables.identities.length ∧
      latest.root = shape.rootOver tables.commitments

/-- The tables are such that an appender may build on them. -/
structure Recoverable (shape : Tree.Shape Bytes) (tables : Tables) : Prop where
  dense : tables.Dense
  fits : tables.identities.length ≤ 2 ^ shape.depth
  latest : tables.LatestCovers shape

def Overlong (shape : Tree.Shape Bytes) (tables : Tables) : Prop :=
  tables.Dense ∧ 2 ^ shape.depth < tables.identities.length

theorem Recoverable.not_overlong (recoverable : tables.Recoverable shape) :
    ¬tables.Overlong shape := by
  intro overlong
  exact Nat.not_lt_of_le recoverable.fits overlong.2

end Tables

namespace Setup

variable {setup : Setup} {conditions : Conditions} {tree : Tree.State Bytes}

theorem accept_cases (shape : Tree.Shape Bytes) (lawful : tables.Lawful) :
    let tree := shape.stateOver tables.commitments
    let outcome := accept tables.commitments tree tables.latest?
    (tables.LatestCovers shape ∧ outcome = .ok tree) ∨
      (¬tables.LatestCovers shape ∧
        ∃ refusal, refusal.category = .integrityViolation ∧ outcome = .error refusal) := by
  intro tree outcome
  have size : tree.size = tables.identities.length := by
    rw [Tree.Shape.stateOver_size, Tables.commitments_length]
  cases recorded : tables.latest? with
  | none =>
      have nothing : tables.checkpoints = [] := List.getLast?_eq_none_iff.mp recorded
      have nobody : tables.commitments = [] ↔ tables.identities = [] := List.map_eq_nil_iff
      by_cases empty : tables.identities = []
      · refine Or.inl ⟨Or.inl ⟨empty, nothing⟩, ?_⟩
        simp [outcome, accept, recorded, nobody.mpr empty]
      · refine Or.inr ⟨?_, .noCheckpointFor tables.commitments.length, rfl, ?_⟩
        · intro covered
          rcases covered with ⟨absent, _⟩ | ⟨latest, last, _⟩
          · exact empty absent
          · have member := last.recorded
            rw [nothing] at member
            cases member
        · simp [outcome, accept, recorded, nobody, empty]
  | some latest =>
      have last := (Tables.latest?_eq_some_iff lawful latest).mp recorded
      -- No other checkpoint is the latest, so the store is covered by this one or not at all.
      have covered_iff : tables.LatestCovers shape ↔
          latest.identityCount = tree.size ∧ latest.root = tree.root := by
        rw [size]
        constructor
        · intro covered
          rcases covered with ⟨_, absent⟩ | ⟨other, otherLast, counted, root⟩
          · have member := last.recorded
            rw [absent] at member
            cases member
          · have same := (Tables.latest?_eq_some_iff lawful other).mpr otherLast
            rw [recorded] at same
            cases same
            exact ⟨counted, root⟩
        · intro agrees
          exact Or.inr ⟨latest, last, agrees⟩
      rw [covered_iff]
      by_cases counted : latest.identityCount = tree.size
      · by_cases root : latest.root = tree.root
        · exact Or.inl ⟨⟨counted, root⟩, by simp [outcome, accept, recorded, counted, root]⟩
        · refine Or.inr ⟨fun agrees => root agrees.2, .rootMismatch latest.root tree.root, rfl, ?_⟩
          simp [outcome, accept, recorded, counted, root]
      · refine Or.inr ⟨fun agrees => counted agrees.1,
          .countMismatch latest.identityCount tree.size, rfl, ?_⟩
        simp [outcome, accept, recorded, counted]

theorem loadTree_cases (setup : Setup) (reads : conditions.strikes .leaves = false)
    (lawful : tables.Lawful) :
    let outcome := setup.loadTree conditions tables
    (tables.Recoverable setup.shape ∧
        outcome = .ok (setup.shape.stateOver tables.commitments)) ∨
      (tables.Overlong setup.shape ∧
        outcome = .error (.refused (.treeFull setup.shape.depth))) ∨
      (¬tables.Recoverable setup.shape ∧ ¬tables.Overlong setup.shape ∧
        ∃ refusal, refusal.category = .integrityViolation ∧ outcome = .error (.refused refusal)) := by
  intro outcome
  have capacity : setup.shape.capacity = 2 ^ setup.shape.depth := setup.shape.capacity_eq
  by_cases dense : tables.Dense
  · have read := Ledger.leaves_of_dense reads dense
    have rebuilt := setup.shape.rebuild_eq tables.commitments
    rw [Tables.commitments_length, capacity] at rebuilt
    by_cases fits : tables.identities.length ≤ 2 ^ setup.shape.depth
    · rw [if_pos fits] at rebuilt
      rcases accept_cases setup.shape lawful with
        ⟨covered, accepted⟩ | ⟨uncovered, refusal, violation, refused⟩
      · refine Or.inl ⟨⟨dense, fits, covered⟩, ?_⟩
        simp [outcome, loadTree, loadTreeOver, read, rebuilt, accepted, bind, Except.bind,
          Except.mapError]
      · refine Or.inr (Or.inr ⟨fun recoverable => uncovered recoverable.latest,
          fun overlong => Nat.not_lt_of_le fits overlong.2, refusal, violation, ?_⟩)
        simp [outcome, loadTree, loadTreeOver, read, rebuilt, refused, bind, Except.bind,
          Except.mapError]
    · rw [if_neg fits] at rebuilt
      refine Or.inr (Or.inl ⟨⟨dense, Nat.lt_of_not_le fits⟩, ?_⟩)
      simp [outcome, loadTree, loadTreeOver, read, rebuilt, bind, Except.bind, Except.mapError,
        Failure.ofTree]
  · obtain ⟨expected, found, refused⟩ := Ledger.leaves_of_not_dense reads dense
    refine Or.inr (Or.inr ⟨fun recoverable => dense recoverable.dense,
      fun overlong => dense overlong.1, .leafGap expected found, rfl, ?_⟩)
    simp [outcome, loadTree, loadTreeOver, refused, bind, Except.bind]

theorem recoverable_of_loadTree (lawful : tables.Lawful)
    (loaded : setup.loadTree conditions tables = .ok tree) : tables.Recoverable setup.shape := by
  obtain ⟨leaves, read, _⟩ := bind_ok loaded
  rcases loadTree_cases setup (Ledger.reads_of_leaves_ok read) lawful with
    ⟨recoverable, _⟩ | ⟨_, refused⟩ | ⟨_, _, refusal, _, refused⟩
  · exact recoverable
  · rw [refused] at loaded
    cases loaded
  · rw [refused] at loaded
    cases loaded

/-- A transaction whose kept tree does not fit the store is committed on recoverable tables only. -/
theorem recoverable_of_transaction (lawful : tables.Lawful) {clock later : Binary}
    {kept : Option (Tree.State Bytes)} {commitment : Bytes} {appended : Appended}
    (unfit : ∀ tree, kept = some tree → tree.size ≠ tables.identities.length)
    (committed : setup.transaction conditions clock tables kept commitment = (.ok appended, later)) :
    tables.Recoverable setup.shape := by
  unfold transaction at committed
  split at committed
  case h_1 => cases committed
  case h_2 prepared preparedOk =>
    obtain ⟨⟨leaf, tree⟩, current, _⟩ := bind_ok preparedOk
    obtain ⟨_, ⟨keeps, fits⟩ | ⟨_, loaded⟩⟩ := currentTree_origin current
    · exact absurd fits (unfit tree keeps)
    · exact recoverable_of_loadTree lawful loaded

end Setup

/-! ## The operations -/

namespace Appender

variable {setup : Setup}

theorem append_of_not_recoverable (lawful : tables.Lawful)
    (unrecoverable : ¬tables.Recoverable setup.shape) (conditions : Conditions) (clock : Binary)
    (appender : Appender) (commitment : Bytes)
    (unfit : ∀ tree, appender.tree = some tree → tree.size ≠ tables.identities.length) :
    let outcome := appender.append setup conditions clock tables commitment
    (∃ failure, outcome.result = .error failure) ∧ outcome.tables = tables := by
  intro outcome
  rcases append_cases setup conditions clock tables appender commitment with
    ⟨failure, _, course⟩ | ⟨reason, _, course⟩ | ⟨_, _, cause, later, _, course⟩ |
      ⟨_, _, appended, later, committed, _⟩
  · exact ⟨⟨failure, congrArg Outcome.result course⟩, congrArg Outcome.tables course⟩
  · exact ⟨⟨_, congrArg Outcome.result course⟩, congrArg Outcome.tables course⟩
  · exact ⟨⟨retriable cause, congrArg Outcome.result course⟩, congrArg Outcome.tables course⟩
  · exact absurd (Setup.recoverable_of_transaction lawful unfit committed) unrecoverable

/-- A recovery that gets the lock, works and can read accepts the recoverable tables and no others, and keeps
the tree that rebuilding the leaves gives.  A dense ledger that is too long ends it without a trace, and
everything else stops the appender.  No append gets past the same test with a tree that does not fit. -/
theorem recover_accepts_exactly_recoverable (setup : Setup) (conditions : Conditions)
    (tables : Tables) (appender : Appender) (lawful : tables.Lawful)
    (free : appender.enter setup = .ok ()) (runs : appender.halted = none)
    (reads : conditions.strikes .leaves = false) :
    let outcome := appender.recover setup conditions tables
    ((∃ tree, outcome.1 = .ok tree) ↔ tables.Recoverable setup.shape) ∧
      (match outcome.1 with
        | .ok tree =>
            tree.size = tables.identities.length ∧
              tree.root = setup.shape.rootOver tables.commitments ∧
              setup.shape.rebuild tables.commitments = .ok tree ∧
              outcome.2 = { appender with tree := some tree }
        | .error failure =>
            (tables.Overlong setup.shape ∧ failure = .refused (.treeFull setup.shape.depth) ∧
                outcome.2 = appender) ∨
              ¬tables.Overlong setup.shape ∧
                ∃ refusal, failure = .refused refusal ∧ refusal.category = .integrityViolation ∧
                  outcome.2 = { appender with halted := some refusal.wording, tree := none }) ∧
      (¬tables.Recoverable setup.shape →
        ∀ (conditions : Conditions) (clock : Binary) (other : Appender) (commitment : Bytes),
          (∀ tree, other.tree = some tree → tree.size ≠ tables.identities.length) →
            let attempt := other.append setup conditions clock tables commitment
            (∃ failure, attempt.result = .error failure) ∧ attempt.tables = tables) := by
  intro outcome
  have running : appender.running = .ok () := by simp [Appender.running, runs]
  rw [← and_assoc]
  refine ⟨?_, append_of_not_recoverable lawful⟩
  rcases Setup.loadTree_cases setup reads lawful with
    ⟨recoverable, loaded⟩ | ⟨overlong, refused⟩ | ⟨unrecoverable, short, refusal, violation, refused⟩
  · have course : outcome = (.ok (setup.shape.stateOver tables.commitments),
        { appender with tree := some (setup.shape.stateOver tables.commitments) }) := by
      simp [outcome, recover_eq, free, running, loaded]
    have fits := recoverable.fits
    rw [← setup.shape.capacity_eq, ← Tables.commitments_length] at fits
    have rebuilt := setup.shape.rebuild_eq tables.commitments
    rw [if_pos fits] at rebuilt
    rw [course]
    refine ⟨⟨fun _ => recoverable, fun _ => ⟨_, rfl⟩⟩, ?_, rfl, rebuilt, rfl⟩
    rw [Tree.Shape.stateOver_size, Tables.commitments_length]
  · have course : outcome = (.error (.refused (.treeFull setup.shape.depth)), appender) := by
      simp [outcome, recover_eq, free, running, refused, retriable, afterFailure, Refusal.category]
    rw [course]
    refine ⟨⟨?_, fun recoverable => absurd overlong recoverable.not_overlong⟩,
      Or.inl ⟨overlong, rfl, rfl⟩⟩
    intro accepting
    obtain ⟨tree, accepted⟩ := accepting
    cases accepted
  · have course : outcome = (.error (.refused refusal),
        { appender with halted := some refusal.wording, tree := none }) := by
      simp [outcome, recover_eq, free, running, refused, retriable, afterFailure, violation]
    rw [course]
    refine ⟨⟨?_, fun recoverable => absurd recoverable unrecoverable⟩,
      Or.inr ⟨short, refusal, rfl, violation, rfl⟩⟩
    intro accepting
    obtain ⟨tree, accepted⟩ := accepting
    cases accepted

def latestOnly : Tables :=
  { twoAppended with checkpoints := twoAppended.checkpoints.drop 1 }

/-- A recovery builds on the latest checkpoint where an audit would miss the other one. -/
theorem recover_accepts_latestOnly :
    ¬latestOnly.Consistent twoLeaves.shape ∧
      ∃ tree, ({} : Appender).recover twoLeaves {} latestOnly = (.ok tree, { tree := some tree }) ∧
        tree.size = 2 ∧ tree.root = [1, 2] := by
  have exact := recover_accepts_exactly_recoverable twoLeaves {} latestOnly {} (by decide)
    (by decide +kernel) rfl (by decide)
  have recoverable : latestOnly.Recoverable twoLeaves.shape := by
    refine ⟨by decide, by decide, Or.inr ⟨_, ⟨List.mem_singleton_self _, ?_⟩, rfl, rfl⟩⟩
    intro other member
    rw [List.mem_singleton.mp member]
  obtain ⟨tree, accepted⟩ := exact.1.mpr recoverable
  have kept := exact.2.1
  rw [accepted] at kept
  obtain ⟨size, root, _, keeps⟩ := kept
  exact ⟨fun consistent => absurd consistent.counted (by decide), tree, Prod.ext accepted keeps, size,
    root⟩

end Appender

end CommitmentLog
