import CommitmentLog.Proofs.Appender.Coherence
import CommitmentLog.Proofs.Conditions
import CommitmentLog.Proofs.Store.Latest

/-!
# Appends that nothing disturbs

No fault strikes and the wall clock shows a time.  Then the tables alone decide what an append comes to, but
for the time that it takes: `Tables.verdict` reads it off them, and `Setup.decision` refuses what is late.
Neither the tree that the appender keeps nor how it came to be there has a say, because on sound tables every
stage of the transaction finds what it needs.  An append that is not late comes to the verdict.
-/

set_option autoImplicit false

namespace CommitmentLog

open Store

/-! ## Without faults -/

namespace Conditions

variable {conditions : Conditions}

theorem hasherWorks_of_faultless (faultless : conditions.faults = []) : conditions.HasherWorks :=
  ⟨strikes_of_faultless faultless _, strikes_of_faultless faultless _⟩

end Conditions

/-! ## What the tables take -/

namespace Tables

variable {shape : Tree.Shape Bytes} {tables : Tables} {commitment : Bytes} {now : Civil}

def staged (tables : Tables) (commitment : Bytes) : Tables :=
  { tables with identities := tables.identities ++ [tables.nextIdentity commitment] }

/-- What an append that nothing disturbs comes to: the tree must have room, the root must be new, and the
number of identities must be one that the store can hold. -/
def verdict (shape : Tree.Shape Bytes) (tables : Tables) (commitment : Bytes) (now : Civil) :
    Except Failure Checkpoint :=
  let root := shape.rootOver (tables.commitments ++ [commitment])
  if shape.capacity ≤ tables.identities.length then .error (.refused (.treeFull shape.depth))
  else if (tables.withRoot? root).isSome then .error (.refused (.rootRecorded root))
  else if Statement.fits (tables.identities.length + 1) then
    .ok (tables.nextCheckpoint shape commitment now)
  else .error .integerTooLarge

theorem run_insertIdentity_next (dense : tables.Dense) :
    (Statement.insertIdentity (tables.nextIdentity commitment)).run .declared tables =
      some (tables.staged commitment, 1) := by
  have taken := takes_nextIdentity dense commitment
  rw [Statement.run_insertIdentity, taken, place_nextIdentity dense]
  rfl

theorem run_insertCheckpoint_next (consistent : tables.Consistent shape)
    (fresh : tables.withRoot? (shape.rootOver (tables.commitments ++ [commitment])) = none) :
    (Statement.insertCheckpoint (tables.nextCheckpoint shape commitment now)).run .declared
        (tables.staged commitment) = some (tables.extended shape commitment now, 1) := by
  have unrecorded : ∀ checkpoint ∈ tables.checkpoints,
      checkpoint.root ≠ shape.rootOver (tables.commitments ++ [commitment]) := by
    intro checkpoint member same
    exact List.find?_eq_none.mp fresh checkpoint member (decide_eq_true same)
  have taken := takes_nextCheckpoint consistent now unrecorded
  have named : Schema.declared.orphaned (tables.staged commitment).identities
      (tables.nextCheckpoint shape commitment now) = false := by
    simp [Schema.orphaned, staged, Schema.refers, Schema.declared, Schema.lastIdentityReference,
      checkpointCells, identityCells, nextCheckpoint, nextIdentity]
  rw [Statement.run_insertCheckpoint, named]
  simp only [staged, taken, place_nextCheckpoint consistent]
  rfl

theorem latest?_accepted (consistent : tables.Consistent shape) :
    Setup.accept tables.commitments (shape.stateOver tables.commitments) tables.latest? =
      .ok (shape.stateOver tables.commitments) := by
  have size := commitments_length tables
  by_cases present : 1 ≤ tables.identities.length
  · obtain ⟨latest, last, counted, root⟩ := latest?_of_consistent consistent present
    rw [← size] at counted
    simp [Setup.accept, last, counted, root]
  · have counted := consistent.counted
    have nobody : tables.commitments = [] := List.length_eq_zero_iff.mp (by omega)
    have nothing : tables.checkpoints = [] := List.length_eq_zero_iff.mp (by omega)
    simp [Setup.accept, latest?, nobody, nothing]

end Tables

/-! ## The stages -/

section Stages

variable {shape : Tree.Shape Bytes} {tables : Tables} {conditions : Conditions} {commitment : Bytes}
  {now : Civil}

theorem Ledger.count_of_faultless (faultless : conditions.faults = []) (tables : Tables) :
    Ledger.count conditions tables = .ok tables.identities.length := by
  simp [Ledger.count, Conditions.strikes_of_faultless faultless]

theorem Ledger.append_next (faultless : conditions.faults = []) (dense : tables.Dense) :
    Ledger.append .declared conditions tables commitment (some tables.identities.length) =
      .ok (tables.identities.length, tables.staged commitment) := by
  have ran : (Statement.insertIdentity (tables.nextIdentity commitment)).run .declared tables =
      some (tables.staged commitment, 1) := Tables.run_insertIdentity_next dense
  have written := Conditions.write_of_faultless faultless .declared 0 _ _ _ _ ran
  rw [Tables.nextIdentity] at written
  simp [Ledger.append, Ledger.count_of_faultless faultless, written, bind, Except.bind]

theorem Checkpoints.hasLastIdentity_staged (tables : Tables) (draft : Checkpoints.Draft)
    (whole : draft.identityCount = tables.identities.length + 1) :
    Checkpoints.hasLastIdentity (tables.staged draft.lastIdentity) draft =
      if Statement.fits tables.identities.length then .ok true else .error .integerTooLarge := by
  have present : ¬draft.identityCount < 1 := by omega
  have last : draft.identityCount - 1 = tables.identities.length := by omega
  have holds : (tables.staged draft.lastIdentity).holds draft.lastIdentity
      tables.identities.length = true := by
    simp [Tables.holds, Tables.staged, Tables.nextIdentity]
  rw [Checkpoints.hasLastIdentity, if_neg present, last, Ledger.contains]
  split
  case isTrue fit =>
    rw [Ledger.bound_of_fits fit]
    exact congrArg Except.ok holds
  case isFalse large =>
    rw [Ledger.bound_of_not_fits large]
    rfl

theorem Tables.ofPrefix?_staged (consistent : tables.Consistent shape) (commitment : Bytes) :
    (tables.staged commitment).ofPrefix? (tables.identities.length + 1) = none := by
  apply List.find?_eq_none.mpr
  intro checkpoint member
  have covered := Tables.identityCount_le consistent checkpoint member
  rw [decide_eq_true_eq]
  omega

theorem Checkpoints.insert_next (faultless : conditions.faults = [])
    (shown : conditions.now.toUniversal? = some now) (consistent : tables.Consistent shape)
    (draft : Checkpoints.Draft)
    (drafted : draft =
      { root := shape.rootOver (tables.commitments ++ [commitment]), lastIdentity := commitment
        identityCount := tables.identities.length + 1 }) :
    Checkpoints.insert .declared conditions 1 (tables.staged commitment) draft =
      if (tables.withRoot? (shape.rootOver (tables.commitments ++ [commitment]))).isSome then
        .error (.refused (.rootRecorded (shape.rootOver (tables.commitments ++ [commitment]))))
      else if Statement.fits (tables.identities.length + 1) then
        .ok (tables.nextCheckpoint shape commitment now, tables.extended shape commitment now)
      else .error .integerTooLarge := by
  have root : draft.root = shape.rootOver (tables.commitments ++ [commitment]) := by rw [drafted]
  have lastIdentity : draft.lastIdentity = commitment := by rw [drafted]
  have counted : draft.identityCount = tables.identities.length + 1 := by rw [drafted]
  have checked : Checkpoints.checkDraft (tables.staged commitment) draft =
      if (tables.withRoot? draft.root).isSome then .error (.refused (.rootRecorded draft.root))
      else .ok () := by
    rw [drafted]
    rfl
  have named := Checkpoints.hasLastIdentity_staged tables draft counted
  have prefixFree := Tables.ofPrefix?_staged consistent commitment
  rw [lastIdentity] at named
  rw [← counted] at prefixFree
  rw [← root, ← counted]
  split
  case isTrue recorded =>
    rw [if_pos recorded] at checked
    exact Checkpoints.insert_of_refused faultless checked
  case isFalse unrecorded =>
    rw [if_neg unrecorded] at checked
    split
    case isTrue fits =>
      have bounded := Ledger.bound_of_fits fits
      rw [counted] at fits
      rw [if_pos (Statement.fits_of_succ fits)] at named
      rw [root, Option.not_isSome_iff_eq_none] at unrecorded
      have created : Checkpoints.universal (draft.createdAt.getD conditions.now) = .ok now := by
        rw [drafted]
        simp only [Option.getD_none, Checkpoints.universal, shown]
      have ran : (Statement.insertCheckpoint (tables.nextCheckpoint shape commitment now)).run
          .declared (tables.staged commitment) = some (tables.extended shape commitment now, 1) :=
        Tables.run_insertCheckpoint_next consistent unrecorded
      have written := Conditions.write_of_faultless faultless .declared 1 _ _ _ _ ran
      refine Checkpoints.insert_of_checked faultless checked named bounded prefixFree created ?_ ?_
        written
      · rw [drafted]
      · rw [drafted, Tables.nextCheckpoint]
        simp
    case isFalse large =>
      have unbounded := Ledger.bound_of_not_fits large
      split at named
      · exact Checkpoints.insert_of_uncountable faultless checked named unbounded
      · exact Checkpoints.insert_of_unreadable faultless checked named

namespace Setup

variable {setup : Setup} {appender : Appender} {clock : Binary}

theorem loadTree_of_consistent (reads : conditions.strikes .leaves = false)
    (consistent : tables.Consistent setup.shape) :
    setup.loadTree conditions tables = .ok (setup.shape.stateOver tables.commitments) := by
  have read := Ledger.leaves_of_dense reads consistent.dense
  have fits := consistent.fits
  rw [← Tables.commitments_length] at fits
  have rebuilt := setup.shape.rebuild_eq tables.commitments
  rw [if_pos fits] at rebuilt
  have accepted := Tables.latest?_accepted consistent
  simp [loadTree, loadTreeOver, read, rebuilt, accepted, bind, Except.bind, Except.mapError]

theorem currentTree_of_consistent (faultless : conditions.faults = [])
    (consistent : tables.Consistent setup.shape)
    (knows : appender.Knows setup.shape tables.commitments) :
    setup.currentTree conditions tables appender.tree =
      .ok (tables.identities.length, setup.shape.stateOver tables.commitments) := by
  have reads := Conditions.strikes_of_faultless faultless .leaves
  have loaded := loadTree_of_consistent reads consistent
  have counted := Ledger.count_of_faultless faultless tables
  have size := Tables.commitments_length tables
  cases kept : appender.tree with
  | none => simp [currentTree, loaded, counted, size, bind, Except.bind]
  | some tree =>
      obtain ⟨known, isPrefix, rfl⟩ := knows tree kept
      by_cases current : known.length = tables.identities.length
      · have whole : known = tables.commitments := isPrefix.eq_of_length (current.trans size.symm)
        simp [currentTree, counted, size, whole, bind, Except.bind]
      · -- The tree is of a shorter prefix, so it is loaded anew.
        have stale : ¬tables.identities.length = known.length := Ne.symm current
        simp [currentTree, loaded, counted, stale, bind, Except.bind]

/-- Nothing disturbs an append that starts at a time of the steady clock and shows a time as the time of
its checkpoint. -/
structure Undisturbed (setup : Setup) (conditions : Conditions) (clock : Binary) (now : Civil) :
    Prop where
  faultless : conditions.faults = []
  shown : conditions.now.toUniversal? = some now
  timely : setup.timeout.isLess ((clock.plus conditions.elapsed).minus clock) = false

instance (setup : Setup) (conditions : Conditions) (clock : Binary) (now : Civil) :
    Decidable (setup.Undisturbed conditions clock now) :=
  decidable_of_iff (_ ∧ _ ∧ _)
    ⟨fun ⟨faultless, shown, timely⟩ => ⟨faultless, shown, timely⟩,
      fun ⟨faultless, shown, timely⟩ => ⟨faultless, shown, timely⟩⟩

theorem prepare_of_consistent (declared : setup.schema = .declared)
    (faultless : conditions.faults = []) (consistent : tables.Consistent setup.shape)
    (knows : appender.Knows setup.shape tables.commitments) (commitment : Bytes) :
    setup.prepare conditions tables appender.tree commitment =
      if setup.shape.capacity ≤ tables.identities.length then
        .error (.refused (.treeFull setup.shape.depth))
      else
        .ok
          { leaf := tables.identities.length
            tree := setup.shape.stateOver (tables.commitments ++ [commitment])
            tables := tables.staged commitment } := by
  have current := currentTree_of_consistent faultless consistent knows
  have staged : Ledger.append setup.schema conditions tables commitment
      (some tables.identities.length) =
        .ok (tables.identities.length, tables.staged commitment) := by
    rw [declared]
    exact Ledger.append_next faultless consistent.dense
  have works := Conditions.hasherWorks_of_faultless faultless
  rw [← Tables.commitments_length tables] at current staged ⊢
  split
  case isTrue full =>
    have refused := extend_of_full setup works tables.commitments commitment full
    simp [prepare, current, staged, refused, bind, Except.bind]
  case isFalse room =>
    have grown := extend_of_room setup works tables.commitments commitment (Nat.lt_of_not_le room)
    simp [prepare, current, staged, grown, bind, Except.bind]

theorem record_of_faultless (faultless : conditions.faults = []) (seconds : Binary)
    (commitment : Bytes) (prepared : Prepared) :
    setup.record conditions commitment prepared seconds =
      (Checkpoints.insert setup.schema conditions 1 prepared.tables
        { root := prepared.tree.root, lastIdentity := commitment
          identityCount := prepared.leaf + 1 }) >>= fun recorded =>
        if setup.timeout.isLess seconds then .error (.refused (.exceeded prepared.leaf setup.timeout))
        else .ok { checkpoint := recorded.1, tree := prepared.tree, tables := recorded.2 } := by
  rw [record]
  refine bind_congr fun recorded => ?_
  simp [Conditions.strikes_of_faultless faultless]

/-- The verdict on the tables, or that the append has taken too long. -/
def decision (setup : Setup) (conditions : Conditions) (clock : Binary) (tables : Tables)
    (commitment : Bytes) (now : Civil) : Except Failure Checkpoint :=
  tables.verdict setup.shape commitment now >>= fun checkpoint =>
    if setup.timeout.isLess ((clock.plus conditions.elapsed).minus clock) then
      .error (.refused (.exceeded tables.identities.length setup.timeout))
    else .ok checkpoint

theorem decision_of_undisturbed (undisturbed : setup.Undisturbed conditions clock now)
    (tables : Tables) (commitment : Bytes) :
    setup.decision conditions clock tables commitment now =
      tables.verdict setup.shape commitment now := by
  rw [decision, undisturbed.timely]
  cases tables.verdict setup.shape commitment now <;> rfl

theorem transaction_of_faultless (declared : setup.schema = .declared)
    (faultless : conditions.faults = []) (shown : conditions.now.toUniversal? = some now)
    (consistent : tables.Consistent setup.shape)
    (knows : appender.Knows setup.shape tables.commitments) (clock : Binary) (commitment : Bytes) :
    (setup.transaction conditions clock tables appender.tree commitment).1 =
      (setup.decision conditions clock tables commitment now).map fun checkpoint =>
        { checkpoint, tree := setup.shape.stateOver (tables.commitments ++ [commitment])
          tables := tables.extended setup.shape commitment now } := by
  have prepared := prepare_of_consistent declared faultless consistent knows commitment
  rw [transaction, prepared, decision, Tables.verdict]
  by_cases full : setup.shape.capacity ≤ tables.identities.length
  · rw [if_pos full, if_pos full]
    rfl
  · have inserted := Checkpoints.insert_next faultless shown consistent
      { root := setup.shape.rootOver (tables.commitments ++ [commitment]), lastIdentity := commitment
        identityCount := tables.identities.length + 1 } rfl
    rw [if_neg full, if_neg full]
    simp only [record_of_faultless faultless, declared]
    rw [Tree.Shape.stateOver_root, inserted]
    split
    · rfl
    · split
      · by_cases late : setup.timeout.isLess ((clock.plus conditions.elapsed).minus clock) = true
        · simp [late, bind, Except.bind, Except.map]
        · simp [late, bind, Except.bind, Except.map]
      · rfl

end Setup

end Stages

/-! ## The whole append -/

namespace Tables

variable {shape : Tree.Shape Bytes} {tables : Tables} {commitment : Bytes} {now : Civil}
  {failure : Failure}

theorem verdict_error (refused : tables.verdict shape commitment now = .error failure) :
    Appender.retriable failure = failure ∧
      ∀ appender : Appender, appender.afterFailure failure = appender := by
  rw [verdict] at refused
  split at refused
  · cases refused
    exact ⟨rfl, fun _ => rfl⟩
  · split at refused
    · cases refused
      exact ⟨rfl, fun _ => rfl⟩
    · split at refused
      · cases refused
      · cases refused
        exact ⟨rfl, fun _ => rfl⟩

end Tables

namespace Setup

variable {setup : Setup} {conditions : Conditions} {clock : Binary} {tables : Tables}
  {commitment : Bytes} {now : Civil} {failure : Failure}

theorem decision_error (refused : setup.decision conditions clock tables commitment now = .error failure) :
    Appender.retriable failure = failure ∧
      ∀ appender : Appender, appender.afterFailure failure = appender := by
  rw [decision] at refused
  cases decided : tables.verdict setup.shape commitment now with
  | error cause =>
      rw [decided] at refused
      cases refused
      exact Tables.verdict_error decided
  | ok checkpoint =>
      rw [decided] at refused
      change (if _ then _ else _) = _ at refused
      split at refused
      · cases refused
        exact ⟨rfl, fun _ => rfl⟩
      · cases refused

end Setup

namespace Appender

variable {setup : Setup} {conditions : Conditions} {clock : Binary} {tables : Tables}
  {appender : Appender} {now : Civil}

theorem append_of_faultless (declared : setup.schema = .declared)
    (faultless : conditions.faults = []) (shown : conditions.now.toUniversal? = some now)
    (entered : appender.enter setup = .ok ()) (runs : appender.halted = none)
    (consistent : tables.Consistent setup.shape)
    (knows : appender.Knows setup.shape tables.commitments) (clock : Binary) (commitment : Bytes) :
    let outcome := appender.append setup conditions clock tables commitment
    match setup.decision conditions clock tables commitment now with
    | .error failure =>
        outcome.result = .error failure ∧ outcome.tables = tables ∧ outcome.appender = appender
    | .ok checkpoint =>
        outcome.result = .ok checkpoint ∧
          outcome.tables = tables.extended setup.shape commitment now ∧
          outcome.appender =
            { appender with
              tree := some (setup.shape.stateOver (tables.commitments ++ [commitment])) } := by
  intro outcome
  have carried :=
    Setup.transaction_of_faultless declared faultless shown consistent knows clock commitment
  rcases append_cases setup conditions clock tables appender commitment with
    ⟨failure, busy, _⟩ | ⟨reason, halted, _⟩ | ⟨_, _, cause, later, failed, course⟩ |
      ⟨_, _, appended, later, committed, course⟩
  · rw [entered] at busy
    cases busy
  · rw [runs] at halted
    cases halted
  · rw [failed] at carried
    cases decided : setup.decision conditions clock tables commitment now with
    | ok checkpoint =>
        rw [decided] at carried
        cases carried
    | error failure =>
        rw [decided] at carried
        cases carried
        obtain ⟨told, same⟩ := Setup.decision_error decided
        simp only [outcome, course, told, same, and_self]
  · rw [committed] at carried
    cases decided : setup.decision conditions clock tables commitment now with
    | error failure =>
        rw [decided] at carried
        cases carried
    | ok checkpoint =>
        rw [decided] at carried
        cases carried
        simp only [outcome, course, and_self]

/-- An append that nothing disturbs comes to the verdict on the tables, whatever tree the appender keeps. -/
theorem append_of_undisturbed (declared : setup.schema = .declared)
    (undisturbed : setup.Undisturbed conditions clock now) (entered : appender.enter setup = .ok ())
    (runs : appender.halted = none) (consistent : tables.Consistent setup.shape)
    (knows : appender.Knows setup.shape tables.commitments) (commitment : Bytes) :
    let outcome := appender.append setup conditions clock tables commitment
    match tables.verdict setup.shape commitment now with
    | .error failure =>
        outcome.result = .error failure ∧ outcome.tables = tables ∧ outcome.appender = appender
    | .ok checkpoint =>
        outcome.result = .ok checkpoint ∧
          outcome.tables = tables.extended setup.shape commitment now ∧
          outcome.appender =
            { appender with
              tree := some (setup.shape.stateOver (tables.commitments ++ [commitment])) } := by
  rw [← Setup.decision_of_undisturbed undisturbed tables commitment]
  exact append_of_faultless declared undisturbed.faultless undisturbed.shown entered runs consistent
    knows clock commitment

end Appender

end CommitmentLog
