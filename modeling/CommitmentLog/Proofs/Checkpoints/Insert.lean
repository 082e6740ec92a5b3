import CommitmentLog.Checkpoints
import CommitmentLog.Proofs.Outcome
import CommitmentLog.Proofs.Store.Insertion

/-!
# Recording a checkpoint

A checkpoint that has been recorded is the one that the draft describes, with its times in universal time,
and no other checkpoint has changed.
-/

set_option autoImplicit false

namespace CommitmentLog.Checkpoints

open Store

variable {schema : Schema} {conditions : Conditions} {offset : Nat} {tables after : Tables}
  {draft : Draft} {checkpoint : Checkpoint}

theorem bound_ok {value bounded : Int} (ok : Ledger.bound value = .ok bounded) : bounded = value := by
  unfold Ledger.bound at ok
  split at ok
  · exact (Except.ok.inj ok).symm
  · cases ok

theorem universal_ok {timestamp : Timestamp} {civil : Civil} (ok : universal timestamp = .ok civil) :
    timestamp.toUniversal? = some civil := by
  unfold universal at ok
  split at ok
  case h_1 found =>
    cases ok
    exact found
  case h_2 => cases ok

theorem insert_ok (inserted : insert schema conditions offset tables draft = .ok (checkpoint, after)) :
    ∃ createdAt minedAt, (draft.createdAt.getD conditions.now).toUniversal? = some createdAt ∧
      draft.minedAt.mapM universal = .ok minedAt ∧
      checkpoint =
        { root := draft.root, lastIdentity := draft.lastIdentity
          lastLeafIndex := draft.identityCount - 1, identityCount := draft.identityCount
          status := draft.status, createdAt := .ofCivil createdAt
          minedAt := minedAt.map Timestamp.ofCivil } ∧
      schema.checkpoints.takes checkpointLayout tables.checkpoints checkpoint = true ∧
      after = { tables with
        checkpoints := place (·.identityCount) checkpoint tables.checkpoints } := by
  unfold insert at inserted
  split at inserted
  · cases inserted
  · split at inserted
    · cases inserted
    · obtain ⟨_, _, inserted⟩ := bind_ok inserted
      obtain ⟨present, _, inserted⟩ := bind_ok inserted
      split at inserted
      · obtain ⟨count, countOk, inserted⟩ := bind_ok inserted
        rw [bound_ok countOk] at inserted
        split at inserted
        · cases inserted
        · obtain ⟨createdAt, createdOk, inserted⟩ := bind_ok inserted
          obtain ⟨minedAt, minedOk, inserted⟩ := bind_ok inserted
          simp only at inserted
          split at inserted
          case h_1 stored written =>
            cases inserted
            obtain ⟨taken, placed⟩ := Conditions.write_insertCheckpoint_ok written
            exact ⟨createdAt, minedAt, universal_ok createdOk, minedOk, rfl, taken, placed⟩
          case h_2 => cases inserted
          case h_3 => cases inserted
      · cases inserted

theorem checked_of_insert
    (inserted : insert schema conditions offset tables draft = .ok (checkpoint, after)) :
    checkDraft tables draft = .ok () := by
  unfold insert at inserted
  split at inserted
  · cases inserted
  · split at inserted
    · cases inserted
    · obtain ⟨_, checked, _⟩ := bind_ok inserted
      exact checked

theorem minedAt_of_insert
    (inserted : insert schema conditions offset tables draft = .ok (checkpoint, after)) :
    checkpoint.status = .mined ↔ checkpoint.minedAt.isSome := by
  have checked := checked_of_insert inserted
  obtain ⟨_, minedAt, _, converted, rfl, _⟩ := insert_ok inserted
  have sameTime : minedAt.isSome = draft.minedAt.isSome := by
    cases given : draft.minedAt with
    | none =>
        rw [given] at converted
        cases converted
        rfl
    | some time =>
        rw [given] at converted
        obtain ⟨civil, _, rest⟩ := bind_ok converted
        cases rest
        rfl
  unfold checkDraft at checked
  split at checked
  case isTrue => cases checked
  case isFalse agrees =>
    simp only [ne_eq, not_not] at agrees
    simp only [Option.isSome_map, sameTime, agrees]

/-! ## Checks and the write -/

def checked (conditions : Conditions) (tables : Tables) (draft : Draft) : Except Failure Checkpoint := do
  checkDraft tables draft
  if ← hasLastIdentity tables draft then
    let count ← Ledger.bound draft.identityCount
    match tables.ofPrefix? count with
    | some other => .error (.refused (.prefixTaken count other.root))
    | none =>
        let createdAt ← universal (draft.createdAt.getD conditions.now)
        let minedAt ← draft.minedAt.mapM universal
        .ok { root := draft.root, lastIdentity := draft.lastIdentity, lastLeafIndex := count - 1,
              identityCount := count, status := draft.status, createdAt := .ofCivil createdAt,
              minedAt := minedAt.map Timestamp.ofCivil }
  else
    .error (.refused (.missingIdentity draft.lastIdentity (draft.identityCount - 1)))

def stored (schema : Schema) (conditions : Conditions) (offset : Nat) (tables : Tables)
    (checkpoint : Checkpoint) : Except Failure (Checkpoint × Tables) :=
  match conditions.write schema offset tables (.insertCheckpoint checkpoint) with
  | .ok after => .ok (checkpoint, after)
  | .error .integrity => .error (.refused (.rootRejected checkpoint.root))
  | .error .operational => .error (.refused .storageFailed)

theorem insert_eq (present : conditions.strikes .insertionAway = false)
    (willing : conditions.strikes .insertionRefused = false) (schema : Schema) (offset : Nat)
    (tables : Tables) (draft : Draft) :
    insert schema conditions offset tables draft =
      checked conditions tables draft >>= stored schema conditions offset tables := by
  rw [insert, checked, present, willing]
  simp only [Bool.false_eq_true, if_false, bind_assoc]
  refine bind_congr fun _ => bind_congr fun named => ?_
  cases named with
  | false => rfl
  | true =>
      simp only [if_true, bind_assoc]
      refine bind_congr fun count => ?_
      cases tables.ofPrefix? count with
      | some other => rfl
      | none =>
          simp only [bind_assoc]
          rfl

/-! ## Without faults -/

section Faultless

variable {failure : Failure} {now : Civil} (faultless : conditions.faults = [])

include faultless

theorem insert_of_refused (refused : checkDraft tables draft = .error failure) :
    insert schema conditions offset tables draft = .error failure := by
  simp [insert, Conditions.strikes, faultless, refused, bind, Except.bind]

theorem insert_of_unreadable (checked : checkDraft tables draft = .ok ())
    (unreadable : hasLastIdentity tables draft = .error failure) :
    insert schema conditions offset tables draft = .error failure := by
  simp [insert, Conditions.strikes, faultless, checked, unreadable, bind, Except.bind]

theorem insert_of_uncountable (checked : checkDraft tables draft = .ok ())
    (named : hasLastIdentity tables draft = .ok true)
    (uncountable : Ledger.bound draft.identityCount = .error failure) :
    insert schema conditions offset tables draft = .error failure := by
  simp [insert, Conditions.strikes, faultless, checked, named, uncountable, bind, Except.bind]

theorem insert_of_checked (checked : checkDraft tables draft = .ok ())
    (named : hasLastIdentity tables draft = .ok true)
    (counted : Ledger.bound draft.identityCount = .ok draft.identityCount)
    (free : tables.ofPrefix? draft.identityCount = none)
    (created : universal (draft.createdAt.getD conditions.now) = .ok now)
    (pending : draft.minedAt = none)
    (drafted : checkpoint =
      { root := draft.root, lastIdentity := draft.lastIdentity
        lastLeafIndex := draft.identityCount - 1, identityCount := draft.identityCount
        status := draft.status, createdAt := .ofCivil now, minedAt := none })
    (written : conditions.write schema offset tables (.insertCheckpoint checkpoint) = .ok after) :
    insert schema conditions offset tables draft = .ok (checkpoint, after) := by
  subst drafted
  simp [insert, Conditions.strikes, faultless, checked, named, counted, free, created, pending,
    written, bind, Except.bind, pure, Except.pure]

end Faultless

end CommitmentLog.Checkpoints
