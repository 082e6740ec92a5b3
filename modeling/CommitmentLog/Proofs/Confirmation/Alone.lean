import CommitmentLog.Proofs.Confirmation.Settle
import CommitmentLog.Proofs.Outcome
import CommitmentLog.Proofs.Store.Continues

/-!
# Changes of status without other writers

A change of status that no other writer interrupts either leaves the tables as they are or turns the pending
checkpoint with the root into a mined one, in its first pass.  So it never takes anything back.
-/

set_option autoImplicit false

namespace CommitmentLog

variable {tables : Tables} {root : Bytes} {checkpoint : Checkpoint}

namespace Tables

theorem leadsTo_confirmed (recorded : tables.withRoot? root = some checkpoint)
    (pending : checkpoint.status = .pending) (given : Civil) :
    tables.LeadsTo (tables.replacing (checkpoint.confirmed given)) := by
  intro regular
  refine ⟨⟨Confirmation.lawful_replacing regular.lawful recorded given, regular.dense, ?_⟩,
    ⟨List.prefix_refl _, ?_⟩⟩
  · intro other member
    obtain ⟨old, oldMember, rfl⟩ := List.mem_map.mp member
    split
    · simp [Checkpoint.confirmed, Status.Timed]
    · exact regular.timed old oldMember
  · intro other member
    -- The row that is replaced is the pending one, because no other row has its root.
    by_cases here : other.root = (checkpoint.confirmed given).root
    · have same : other = checkpoint :=
        regular.lawful.eq_of_root member (List.mem_of_find?_eq_some recorded) here
      refine ⟨checkpoint.confirmed given, List.mem_map.mpr ⟨other, member, if_pos here⟩, ?_⟩
      rw [same]
      refine ⟨rfl, rfl, ?_⟩
      intro mined
      rw [pending] at mined
      cases mined
    · exact ⟨other, List.mem_map.mpr ⟨other, member, if_neg here⟩, .refl other⟩

/-- Confirming a pending checkpoint makes one more that is mined, because no other has its root. -/
theorem length_withStatus_confirmed (lawful : tables.Lawful)
    (recorded : tables.withRoot? root = some checkpoint) (pending : checkpoint.status = .pending)
    (given : Civil) :
    ((tables.replacing (checkpoint.confirmed given)).withStatus .mined).length =
      (tables.withStatus .mined).length + 1 := by
  obtain ⟨_, before, behind, split, _⟩ := List.find?_eq_some_iff_append.mp recorded
  have distinct := lawful.roots
  rw [split] at distinct
  obtain ⟨_, distinctBehind, distinctBefore⟩ := List.pairwise_append.mp distinct
  have untouched : ∀ rows : List Checkpoint, (∀ row ∈ rows, row.root ≠ checkpoint.root) →
      (rows.map fun row => if row.root = checkpoint.root then checkpoint.confirmed given else row) =
        rows := by
    intro rows differ
    exact List.map_congr_left (fun row member => if_neg (differ row member)) |>.trans (List.map_id rows)
  have first := untouched before fun row member => distinctBefore row member checkpoint (by simp)
  have last := untouched behind fun row member =>
    Ne.symm ((List.pairwise_cons.mp distinctBehind).1 row member)
  have replaced : (tables.replacing (checkpoint.confirmed given)).checkpoints =
      before ++ checkpoint.confirmed given :: behind := by
    have named : (checkpoint.confirmed given).root = checkpoint.root := rfl
    rw [replacing, split, named, List.map_append, List.map_cons, first, last, if_pos rfl]
  have mined : (checkpoint.confirmed given).status = .mined := rfl
  simp [withStatus, replaced, split, mined, pending, Nat.add_assoc]

end Tables

namespace Confirmation

variable {next : Status}

/-- Only the change from pending to mined has to be written, and it comes with a time. -/
theorem due_of_checkTransition {current : Status} {recorded given : Option Timestamp}
    (due : checkTransition root current recorded next given = .ok true) :
    current = .pending ∧ next = .mined ∧ given.isSome := by
  cases current with
  | pending =>
      cases next with
      | pending => cases due
      | mined =>
          by_cases timed : given.isSome
          · exact ⟨rfl, rfl, timed⟩
          · simp [checkTransition, timed] at due
  | mined =>
      cases next with
      | pending => cases due
      | mined =>
          simp only [checkTransition] at due
          split at due
          · split at due <;> cases due
          · cases due

theorem examine_ok {given : Option Civil} {due : Bool}
    (examined : examine tables root next given = .ok (checkpoint, due)) :
    tables.withRoot? root = some checkpoint ∧
      checkTransition checkpoint.root checkpoint.status checkpoint.minedAt next
        (given.map Timestamp.ofCivil) = .ok due := by
  obtain ⟨found, read, checking⟩ := bind_ok examined
  obtain ⟨transition, checked, result⟩ := bind_ok checking
  cases result
  refine ⟨?_, checked⟩
  unfold Checkpoints.get at read
  split at read
  case h_1 recorded here => rw [here, Except.ok.inj read]
  case h_2 => cases read

/-- Without other writers the first pass decides: nothing is written, or the pending checkpoint with the root
is confirmed. -/
theorem passes_alone (conditions : Conditions) (root : Bytes) (next : Status) (given : Option Civil)
    (remaining : Nat) (lawful : tables.Lawful) :
    let outcome := passes .declared conditions root next given (remaining + 1) .nothing [] tables
    (outcome.2 = tables ∧ ∀ checkpoint, outcome.1 ≠ .ok (checkpoint, true)) ∨
      ∃ checkpoint civil, tables.withRoot? root = some checkpoint ∧ checkpoint.status = .pending ∧
        outcome = (.ok (checkpoint.confirmed civil, true),
          tables.replacing (checkpoint.confirmed civil)) := by
  simp only [passes, List.headD_nil, Interference.apply]
  split
  case h_1 => exact Or.inl ⟨rfl, by simp⟩
  case h_2 checkpoint due examined =>
    cases due with
    | false => exact Or.inl ⟨rfl, by simp⟩
    | true =>
        obtain ⟨recorded, transition⟩ := examine_ok examined
        obtain ⟨pending, rfl, timed⟩ := due_of_checkTransition transition
        cases given with
        | none => cases timed
        | some civil =>
            -- Nobody came between, so the conditional write finds the status that was read.
            have settled := settle_of_status lawful recorded civil
            have named := Tables.root_of_withRoot? recorded
            have read : Checkpoints.get (tables.replacing (checkpoint.confirmed civil)) root =
                .ok (checkpoint.confirmed civil) := by
              rw [Checkpoints.get, Tables.withRoot?_replacing recorded (checkpoint.confirmed civil) named]
            by_cases struck : conditions.strikes .update
            · simp [struck]
            · refine Or.inr ⟨checkpoint, civil, recorded, pending, ?_⟩
              simp [struck, settled, read]

theorem applyStatus_leadsTo (conditions : Conditions) (root : Bytes) (next : Status)
    (given : Option Timestamp) (tables : Tables) :
    tables.LeadsTo (applyStatus .declared conditions [] root next given tables).2 := by
  intro regular
  rw [applyStatus]
  split
  case h_1 => exact Tables.LeadsTo.refl tables regular
  case h_2 universal converted =>
    rcases passes_alone conditions root next universal 1 regular.lawful with
      ⟨untouched, _⟩ | ⟨checkpoint, civil, recorded, pending, confirmed⟩
    · rw [untouched]
      exact Tables.LeadsTo.refl tables regular
    · rw [confirmed]
      exact Tables.leadsTo_confirmed recorded pending civil regular

theorem confirm_counted_cases (conditions : Conditions) (root : Bytes) (minedAt : Timestamp)
    (lawful : tables.Lawful) :
    let confirmed := confirm .declared conditions [] root minedAt tables
    (confirmed.counted = false ∧ confirmed.tables = tables) ∨
      (confirmed.counted = true ∧ ∃ checkpoint civil, tables.withRoot? root = some checkpoint ∧
        checkpoint.status = .pending ∧
        confirmed.tables = tables.replacing (checkpoint.confirmed civil)) := by
  intro confirmed
  cases converted : Checkpoints.universal minedAt with
  | error failure =>
      have refused := applyStatus_of_not_universal .declared conditions [] root converted tables
      exact Or.inl (by simp [confirmed, confirm, refused])
  | ok given =>
      have applied := applyStatus_of_universal .declared conditions [] root converted tables
      rcases passes_alone conditions root .mined (some given) 1 lawful with
        ⟨untouched, unwritten⟩ | ⟨checkpoint, civil, recorded, pending, written⟩
      · rcases outcome : passes .declared conditions root .mined (some given) 2 .nothing [] tables with
          ⟨failure | ⟨checkpoint, due⟩, after⟩
        · exact Or.inl (by simp [confirmed, confirm, applied, outcome])
        · rw [outcome] at untouched unwritten
          cases due with
          | true => exact absurd rfl (unwritten checkpoint)
          | false =>
              left
              simp only [confirmed, confirm, applied, outcome]
              split
              · exact ⟨rfl, rfl⟩
              · exact ⟨rfl, untouched⟩
      · have timed : (checkpoint.confirmed civil).minedAt.isNone = false := rfl
        by_cases lost : conditions.strikes .commit
        · exact Or.inl (by simp [confirmed, confirm, applied, written, lost])
        · refine Or.inr ⟨?_, checkpoint, civil, recorded, pending, ?_⟩
          · simp [confirmed, confirm, applied, written, lost, timed]
          · simp [confirmed, confirm, applied, written, lost, timed]

theorem confirm_leadsTo (conditions : Conditions) (root : Bytes) (minedAt : Timestamp)
    (tables : Tables) :
    tables.LeadsTo (confirm .declared conditions [] root minedAt tables).tables := by
  intro regular
  rcases confirm_counted_cases conditions root minedAt regular.lawful with
    ⟨_, untouched⟩ | ⟨_, checkpoint, civil, recorded, pending, confirmed⟩
  · rw [untouched]
    exact Tables.LeadsTo.refl tables regular
  · rw [confirmed]
    exact Tables.leadsTo_confirmed recorded pending civil regular

end Confirmation

end CommitmentLog
