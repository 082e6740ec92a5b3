import CommitmentLog.Proofs.Checkpoints.Insert
import CommitmentLog.Proofs.Conditions
import CommitmentLog.Proofs.Ledger.Append
import CommitmentLog.Proofs.Ledger.Find
import CommitmentLog.Proofs.Session.Run
import CommitmentLog.Proofs.Store.StatusChange

/-!
# Checks and constraints

Recording a checkpoint checks by itself what the schema demands of the new row.  So a draft that passes the
checks is a row that the schema takes, whatever stands in the tables, and the last statement is refused only
if another writer comes between the checks and it.  A draft that does not pass is refused for the first check
that it fails, and the session goes on as if it had not been asked.
-/

set_option autoImplicit false

namespace CommitmentLog

open Store

/-- What the schema demands of a checkpoint beside the rows that are there: the primary key, the unique
length, the length and its last leaf, the status, the cells that must be there, and the reference. -/
structure Checkpoint.Admissible (tables : Tables) (row : Checkpoint) : Prop where
  root : ∀ other ∈ tables.checkpoints, row.root ≠ other.root
  identityCount : ∀ other ∈ tables.checkpoints, row.identityCount ≠ other.identityCount
  lastLeafIndex : row.identityCount = row.lastLeafIndex + 1
  status : ∃ text ∈ Schema.statusValues, checkpointCells row .status = .text text
  required : ∀ column, column ≠ .minedAt → checkpointCells row column ≠ .null
  reference : ∃ identity ∈ tables.identities,
    identity.commitment = row.lastIdentity ∧ identity.leafIndex = row.lastLeafIndex

theorem Store.Schema.not_orphaned_iff (identities : List Identity) (row : Checkpoint) :
    declared.orphaned identities row = false ↔
      ∃ identity ∈ identities,
        identity.commitment = row.lastIdentity ∧ identity.leafIndex = row.lastLeafIndex := by
  have refers : ∀ identity, declared.refers row identity = true ↔
      identity.commitment = row.lastIdentity ∧ identity.leafIndex = row.lastLeafIndex := by
    intro identity
    simp [Schema.refers, declared, lastIdentityReference, checkpointCells, identityCells,
      @eq_comm _ row.lastIdentity, @eq_comm _ row.lastLeafIndex]
  simp [Schema.orphaned, refers]

theorem Checkpoint.admissible_iff (tables : Tables) (row : Checkpoint) :
    row.Admissible tables ↔
      Schema.declared.checkpoints.takes checkpointLayout tables.checkpoints row = true ∧
        Schema.declared.orphaned tables.identities row = false := by
  rw [Schema.takes_checkpoint_iff, Schema.not_orphaned_iff]
  constructor
  · intro admissible
    refine ⟨⟨admissible.lastLeafIndex, ?_⟩, admissible.reference⟩
    intro other member
    exact ⟨admissible.root other member, admissible.identityCount other member⟩
  · intro taken
    obtain ⟨⟨lastLeaf, apart⟩, reference⟩ := taken
    refine ⟨fun other member => (apart other member).1, fun other member => (apart other member).2,
      lastLeaf, ⟨row.status.text, ?_, rfl⟩, ?_, reference⟩
    · cases row.status <;> decide
    · intro column present
      cases column with
      | minedAt => exact absurd rfl present
      | _ => exact Cell.noConfusion

namespace Checkpoints

variable {conditions : Conditions} {offset : Nat} {tables : Tables} {draft : Draft}

/-- The row that a draft describes, if its times have a form in universal time. -/
def Draft.row? (draft : Draft) (now : Timestamp) : Option Checkpoint :=
  match (draft.createdAt.getD now).toUniversal?, draft.minedAt.mapM Timestamp.toUniversal? with
  | some createdAt, some minedAt =>
      some
        { root := draft.root, lastIdentity := draft.lastIdentity
          lastLeafIndex := draft.identityCount - 1, identityCount := draft.identityCount
          status := draft.status, createdAt := .ofCivil createdAt
          minedAt := minedAt.map Timestamp.ofCivil }
  | _, _ => none

def Draft.Recorded (tables : Tables) (draft : Draft) : Prop :=
  ∃ other ∈ tables.checkpoints, other.root = draft.root

def Draft.Referenced (tables : Tables) (draft : Draft) : Prop :=
  1 ≤ draft.identityCount ∧ ∃ identity ∈ tables.identities,
    identity.commitment = draft.lastIdentity ∧ identity.leafIndex = draft.identityCount - 1

def Draft.Covered (tables : Tables) (draft : Draft) : Prop :=
  ∃ other ∈ tables.checkpoints, other.identityCount = draft.identityCount

instance (tables : Tables) (draft : Draft) : Decidable (draft.Recorded tables) :=
  inferInstanceAs (Decidable (∃ other ∈ tables.checkpoints, _))

instance (tables : Tables) (draft : Draft) : Decidable (draft.Referenced tables) :=
  inferInstanceAs (Decidable (_ ∧ ∃ identity ∈ tables.identities, _))

instance (tables : Tables) (draft : Draft) : Decidable (draft.Covered tables) :=
  inferInstanceAs (Decidable (∃ other ∈ tables.checkpoints, _))

/-! ## The checks one by one -/

theorem checkDraft_eq (tables : Tables) (draft : Draft) :
    checkDraft tables draft =
      if ¬draft.status.Timed draft.minedAt then
        .error (.refused (.statusWithoutTime draft.status draft.minedAt))
      else if draft.Recorded tables then .error (.refused (.rootRecorded draft.root))
      else .ok () := by
  have recorded : (tables.withRoot? draft.root).isSome = true ↔ draft.Recorded tables := by
    simp [Tables.withRoot?, List.find?_isSome, Draft.Recorded]
  have timed : ((draft.status = .mined) ≠ (draft.minedAt.isSome = true)) ↔
      ¬draft.status.Timed draft.minedAt := by
    simp [Status.Timed]
  simp only [checkDraft, timed, recorded]

theorem hasLastIdentity_eq (fits : Statement.fits draft.identityCount = true) :
    hasLastIdentity tables draft = .ok (decide (draft.Referenced tables)) := by
  rw [hasLastIdentity]
  by_cases none : draft.identityCount < 1
  · have some : ¬draft.Referenced tables := fun referenced => by
      have := referenced.1
      omega
    rw [if_pos none, decide_eq_false some]
  · have some : 1 ≤ draft.identityCount := Int.not_lt.mp none
    have last : Statement.fits (draft.identityCount - 1) = true := by
      rw [Statement.fits_iff] at fits ⊢
      omega
    have read : Ledger.contains tables draft.lastIdentity (draft.identityCount - 1) =
        .ok (tables.holds draft.lastIdentity (draft.identityCount - 1)) := by
      rw [Ledger.contains, Ledger.bound_of_fits last]
      rfl
    have holds : tables.holds draft.lastIdentity (draft.identityCount - 1) =
        decide (draft.Referenced tables) := by
      rw [Bool.eq_iff_iff, Tables.holds_iff, decide_eq_true_iff, Draft.Referenced]
      simp [some]
    rw [if_neg none, read, holds]

theorem ofPrefix?_eq_none_iff :
    tables.ofPrefix? draft.identityCount = none ↔ ¬draft.Covered tables := by
  simp [Tables.ofPrefix?, Draft.Covered]

theorem mapM_universal (minedAt : Option Timestamp) :
    minedAt.mapM universal =
      match minedAt.mapM Timestamp.toUniversal? with
      | some civil => .ok civil
      | none => .error .dateOutOfRange := by
  cases minedAt with
  | none => rfl
  | some time =>
      rw [Option.mapM_some, Option.mapM_some, universal]
      cases time.toUniversal? <;> rfl

/-- The first check that a draft does not pass decides why it is refused. -/
theorem checked_eq (conditions : Conditions) (tables : Tables)
    (fits : Statement.fits draft.identityCount = true) :
    checked conditions tables draft =
      if ¬draft.status.Timed draft.minedAt then
        .error (.refused (.statusWithoutTime draft.status draft.minedAt))
      else if draft.Recorded tables then .error (.refused (.rootRecorded draft.root))
      else if ¬draft.Referenced tables then
        .error (.refused (.missingIdentity draft.lastIdentity (draft.identityCount - 1)))
      else
        match tables.ofPrefix? draft.identityCount with
        | some other => .error (.refused (.prefixTaken draft.identityCount other.root))
        | none =>
            match draft.row? conditions.now with
            | some row => .ok row
            | none => .error .dateOutOfRange := by
  rw [checked, checkDraft_eq, hasLastIdentity_eq fits, Ledger.bound_of_fits fits, mapM_universal,
    Draft.row?, universal]
  split
  · rfl
  · split
    · rfl
    · by_cases referenced : draft.Referenced tables
      · simp only [referenced, not_true_eq_false, if_false, decide_true, bind, Except.bind, if_true]
        cases tables.ofPrefix? draft.identityCount with
        | some other => rfl
        | none =>
            cases (draft.createdAt.getD conditions.now).toUniversal? with
            | none => rfl
            | some createdAt => cases draft.minedAt.mapM Timestamp.toUniversal? <;> rfl
      · simp only [referenced, not_false_eq_true, if_true, decide_false]
        rfl

/-! ## Checks and the schema -/

theorem Draft.row?_eq_some {now : Timestamp} {row : Checkpoint} (described : draft.row? now = some row) :
    row.root = draft.root ∧ row.lastIdentity = draft.lastIdentity ∧
      row.lastLeafIndex = draft.identityCount - 1 ∧ row.identityCount = draft.identityCount := by
  unfold Draft.row? at described
  split at described
  case h_1 =>
    cases described
    exact ⟨rfl, rfl, rfl, rfl⟩
  case h_2 => cases described

/-- Each check stands for a constraint: a row that comes through all of them is admissible. -/
theorem admissible_of_checked {now : Timestamp} {row : Checkpoint}
    (described : draft.row? now = some row) (unrecorded : ¬draft.Recorded tables)
    (referenced : draft.Referenced tables) (uncovered : ¬draft.Covered tables) :
    row.Admissible tables := by
  obtain ⟨root, lastIdentity, lastLeaf, count⟩ := Draft.row?_eq_some described
  rw [Checkpoint.admissible_iff, Schema.takes_checkpoint_iff, Schema.not_orphaned_iff, root,
    lastIdentity, lastLeaf, count]
  refine ⟨⟨(Int.sub_add_cancel _ _).symm, ?_⟩, referenced.2⟩
  intro other member
  exact ⟨fun same => unrecorded ⟨other, member, same.symm⟩,
    fun same => uncovered ⟨other, member, same.symm⟩⟩

theorem stored_of_admissible (faultless : conditions.faults = []) {row : Checkpoint}
    (admissible : row.Admissible tables) :
    stored .declared conditions offset tables row =
      .ok (row, { tables with
        checkpoints := place (·.identityCount) row tables.checkpoints }) := by
  obtain ⟨taken, referenced⟩ := (Checkpoint.admissible_iff tables row).mp admissible
  have ran := Statement.run_insertCheckpoint .declared tables row
  rw [taken, referenced] at ran
  have written := Conditions.write_of_faultless faultless .declared offset _ _ _ _ ran
  simp only [stored, written]

/-! ## Within a session -/

/-- If a step fails, then not because the store rejected a write, and the session stays as it was. -/
def FailsUnharmed (session : Session) (outcome : Except Failure Session.Answer × Bool × Session) :
    Prop :=
  ∀ failure, outcome.1 = .error failure →
    (∀ root, failure ≠ .refused (.rootRejected root)) ∧ outcome.2 = (false, session)

def RefusesAs (session : Session) (category : Category) (refusal : Refusal)
    (outcome : Except Failure Session.Answer × Bool × Session) : Prop :=
  refusal.category = category ∧ outcome = (.error (.refused refusal), false, session)

section Session

variable {session : Session} {failure : Failure}

theorem step_insert_error (faultless : conditions.faults = [])
    (unrejected : ∀ root, failure ≠ .refused (.rootRejected root))
    (refused : insert .declared conditions 0 session.working draft = .error failure) :
    let outcome := session.step .declared conditions (.insert draft)
    outcome = (.error failure, false, session) ∧ FailsUnharmed session outcome := by
  have spared : Session.rejected (.insert draft) failure = false := by
    unfold Session.rejected
    split
    case h_2 root _ => exact absurd rfl (unrejected root)
    all_goals first | rfl | contradiction
  have ended : Session.within .declared conditions session.working (.insert draft) =
      (.error failure, session.working) := by
    rw [Session.within, refused]
    rfl
  rw [Session.step_of_refused (by simp) faultless spared ended]
  refine ⟨rfl, ?_⟩
  intro other same
  cases same
  exact ⟨unrejected, rfl⟩

theorem refusesAs_of_insert (faultless : conditions.faults = []) {refusal : Refusal}
    (unrejected : ∀ root, refusal ≠ .rootRejected root)
    (refused : insert .declared conditions 0 session.working draft = .error (.refused refusal)) :
    let outcome := session.step .declared conditions (.insert draft)
    RefusesAs session refusal.category refusal outcome ∧ FailsUnharmed session outcome := by
  have ends := step_insert_error faultless (fun root same => unrejected root (by simpa using same)) refused
  exact ⟨⟨rfl, ends.1⟩, ends.2⟩

theorem step_insert_ok {row : Checkpoint} {after : Tables}
    (stored : insert .declared conditions 0 session.working draft = .ok (row, after)) :
    let outcome := session.step .declared conditions (.insert draft)
    outcome = (.ok (.checkpoint row), false, { session with working := after }) ∧
      FailsUnharmed session outcome := by
  have ended : session.step .declared conditions (.insert draft) =
      (.ok (.checkpoint row), false, { session with working := after }) := by
    simp only [Session.step, Session.within, Session.writing, stored]
  rw [ended]
  refine ⟨rfl, ?_⟩
  intro failure failed
  cases failed

/-- Without faults the checks decide alone what becomes of a draft, in this order: whether it has a time
exactly if it is mined, whether its root is new, whether the identity at the end of its prefix is stored, and
whether the prefix has no checkpoint yet.  A draft that passes adds one row, if its times have a form in
universal time, and the row keeps all constraints.  So the store never rejects a draft that has been checked,
and a draft that fails in whichever way leaves the session as it was. -/
theorem insert_decided_by_checks (conditions : Conditions) (faultless : conditions.faults = [])
    (session : Session) (draft : Draft) (fits : Statement.fits draft.identityCount = true) :
    let tables := session.working
    let outcome := session.step .declared conditions (.insert draft)
    (if ¬draft.status.Timed draft.minedAt then
        RefusesAs session .invalidTransition (.statusWithoutTime draft.status draft.minedAt) outcome
      else if draft.Recorded tables then
        RefusesAs session .duplicateRoot (.rootRecorded draft.root) outcome
      else if ¬draft.Referenced tables then
        RefusesAs session .integrityViolation
          (.missingIdentity draft.lastIdentity (draft.identityCount - 1)) outcome
      else if draft.Covered tables then
        ∃ other ∈ tables.checkpoints, other.identityCount = draft.identityCount ∧
          RefusesAs session .integrityViolation (.prefixTaken draft.identityCount other.root) outcome
      else
        match draft.row? conditions.now with
        | none => outcome = (.error .dateOutOfRange, false, session)
        | some row =>
            ∃ after, outcome = (.ok (.checkpoint row), false, { session with working := after }) ∧
              after.identities = tables.identities ∧
              after.checkpoints.Perm (row :: tables.checkpoints) ∧ row.Admissible tables ∧
              (tables.Lawful → after.Lawful)) ∧
      FailsUnharmed session outcome := by
  intro tables outcome
  have quiet := Conditions.strikes_of_faultless faultless
  have course := insert_eq (quiet .insertionAway) (quiet .insertionRefused) .declared 0 tables draft
  rw [checked_eq conditions tables fits] at course
  split
  case isTrue untimed =>
    rw [if_pos untimed] at course
    exact refusesAs_of_insert faultless (by simp) course
  case isFalse timed =>
    rw [if_neg timed] at course
    split
    case isTrue recorded =>
      rw [if_pos recorded] at course
      exact refusesAs_of_insert faultless (by simp) course
    case isFalse unrecorded =>
      rw [if_neg unrecorded] at course
      split
      case isTrue unreferenced =>
        rw [if_pos unreferenced] at course
        exact refusesAs_of_insert faultless (by simp) course
      case isFalse referenced =>
        rw [if_neg referenced] at course
        rw [not_not] at referenced
        cases search : tables.ofPrefix? draft.identityCount with
        | some other =>
            have member : other ∈ tables.checkpoints := List.mem_of_find?_eq_some search
            have counted : other.identityCount = draft.identityCount := by
              simpa using List.find?_some search
            simp only [search] at course
            obtain ⟨refused, unharmed⟩ := refusesAs_of_insert faultless (by simp) course
            rw [if_pos ⟨other, member, counted⟩]
            exact ⟨⟨other, member, counted, refused⟩, unharmed⟩
        | none =>
            have uncovered := ofPrefix?_eq_none_iff.mp search
            simp only [search] at course
            rw [if_neg uncovered]
            cases described : draft.row? conditions.now with
            | none =>
                simp only [described] at course
                exact step_insert_error faultless (by simp) course
            | some row =>
                have admissible := admissible_of_checked described unrecorded referenced uncovered
                have taken := ((Checkpoint.admissible_iff tables row).mp admissible).1
                have kept : stored .declared conditions 0 tables row = _ :=
                  stored_of_admissible faultless admissible
                simp only [described] at course
                obtain ⟨ended, unharmed⟩ := step_insert_ok (course.trans kept)
                exact ⟨⟨_, ended, rfl, place_perm _ _ _, admissible,
                  fun lawful => lawful.insertCheckpoint taken⟩, unharmed⟩

end Session

def gapped : Tables :=
  { identities := [{ leafIndex := 0, commitment := [1] }, { leafIndex := 5, commitment := [2] }]
    checkpoints :=
      [{ root := [9], lastIdentity := [3], lastLeafIndex := 2, identityCount := 3, status := .pending
         createdAt := .ofCivil { year := 2026, month := 1, day := 1 }, minedAt := none }] }

def behindGap : Draft :=
  { root := [7], lastIdentity := [2], identityCount := 6, status := .mined
    minedAt := some (.ofCivil { year := 2026, month := 3, day := 1 }) }

/-- A draft is recorded in a store with a gap.  With a root that is known it is refused for that root, although
its prefix is taken as well and its identity is missing. -/
theorem insert_decided_by_checks_gapped :
    let session : Session := { committed := gapped, working := gapped }
    let again : Draft := { behindGap with root := [9], identityCount := 3 }
    Statement.fits behindGap.identityCount = true ∧ Statement.fits again.identityCount = true ∧
      gapped.Lawful ∧ ¬again.Referenced gapped ∧ again.Covered gapped ∧
      (∃ row after, session.step .declared {} (.insert behindGap) =
          (.ok (.checkpoint row), false, { session with working := after }) ∧
        row.Admissible gapped ∧ after.Lawful) ∧
      RefusesAs session .duplicateRoot (.rootRecorded [9])
        (session.step .declared {} (.insert again)) := by
  intro session again
  have lawful : gapped.Lawful := by decide
  have accepted := (insert_decided_by_checks {} rfl session behindGap (by decide)).1
  have refused := (insert_decided_by_checks {} rfl session again (by decide)).1
  rw [if_neg (by decide), if_neg (by decide), if_neg (by decide), if_neg (by decide)] at accepted
  rw [if_neg (by decide), if_pos (by decide)] at refused
  obtain ⟨after, ended, _, _, admissible, keeps⟩ := accepted
  exact ⟨by decide, by decide, lawful, by decide, by decide,
    ⟨_, after, ended, admissible, keeps lawful⟩, refused⟩

end Checkpoints

end CommitmentLog
