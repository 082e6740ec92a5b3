import CommitmentLog.Proofs.Conditions
import CommitmentLog.Proofs.Confirmation.Alone

/-!
# Confirmations without faults

What a confirmation comes to when no fault strikes and no other writer interrupts it.  If the given time has
no form in universal time, nothing happens.  Otherwise it is refused and changes nothing, or it answers with
the checkpoint, which it has confirmed unless somebody else had done so before.  This needs that the recorded
times are in universal time, because a time with an offset could not be compared with the given one.
-/

set_option autoImplicit false

namespace CommitmentLog

open Store

variable {tables : Tables} {shape : Tree.Shape Bytes} {root : Bytes} {checkpoint : Checkpoint}

/-! ## Recorded times -/

namespace Tables

def InUniversalTime (tables : Tables) : Prop :=
  ∀ checkpoint ∈ tables.checkpoints, ∀ time, checkpoint.minedAt = some time →
    ∃ civil, time = .ofCivil civil

theorem InUniversalTime.extended (universal : tables.InUniversalTime) (commitment : Bytes)
    (now : Civil) : (tables.extended shape commitment now).InUniversalTime := by
  intro other member time mined
  rcases List.mem_append.mp member with old | new
  · exact universal other old time mined
  · rw [List.mem_singleton.mp new] at mined
    cases mined

theorem InUniversalTime.replacing (universal : tables.InUniversalTime) (checkpoint : Checkpoint)
    (given : Civil) : (tables.replacing (checkpoint.confirmed given)).InUniversalTime := by
  intro other member time mined
  obtain ⟨old, oldMember, rfl⟩ := List.mem_map.mp member
  split at mined
  · exact ⟨given, (Option.some.inj mined).symm⟩
  · exact universal old oldMember time mined

/-- A mined checkpoint is one that was confirmed at some time. -/
theorem InUniversalTime.confirmed (universal : tables.InUniversalTime)
    (timed : ∀ checkpoint ∈ tables.checkpoints, checkpoint.status.Timed checkpoint.minedAt)
    (member : checkpoint ∈ tables.checkpoints) (mined : checkpoint.status = .mined) :
    ∃ settled, checkpoint = checkpoint.confirmed settled := by
  obtain ⟨time, recorded⟩ := Option.isSome_iff_exists.mp ((timed checkpoint member).mp mined)
  obtain ⟨settled, rfl⟩ := universal checkpoint member time recorded
  refine ⟨settled, ?_⟩
  rw [Checkpoint.confirmed, ← recorded, ← mined]

end Tables

/-! ## The whole confirmation -/

namespace Confirmation

variable {conditions : Conditions} {given : Civil}

/-- A result that keeps to the answers of a confirmation which has a time. -/
def Settles (tables : Tables) (root : Bytes) (given : Civil) (confirmed : Confirmed) : Prop :=
  ((∃ refusal, confirmed.result = .error (.refused refusal)) ∧ confirmed.tables = tables) ∨
    ∃ checkpoint, confirmed.result = .ok checkpoint ∧
      (confirmed.tables = tables ∨
        ∃ pending, tables.withRoot? root = some pending ∧ pending.status = .pending ∧
          confirmed.tables = tables.replacing (pending.confirmed given))

theorem confirm_of_passes (faultless : conditions.faults = []) {minedAt : Timestamp}
    (converted : minedAt.toUniversal? = some given) {outcome : Except Failure (Checkpoint × Bool)}
    {after : Tables}
    (passed : passes .declared conditions root .mined (some given) 2 .nothing [] tables =
      (outcome, after)) :
    confirm .declared conditions [] root minedAt tables =
      match outcome with
      | .error failure => { result := .error failure, counted := false, tables }
      | .ok (checkpoint, written) =>
          if written && checkpoint.minedAt.isNone then
            { result := .error .timeGone, counted := true, tables := after }
          else { result := .ok checkpoint, counted := written, tables := after } := by
  have universal : Checkpoints.universal minedAt = .ok given := by
    rw [Checkpoints.universal, converted]
  have applied := applyStatus_of_universal .declared conditions [] root universal tables
  have uncommitted := Conditions.strikes_of_faultless faultless .commit
  rw [passed] at applied
  rw [confirm, applied]
  simp only [uncommitted]
  cases outcome with
  | error failure => rfl
  | ok outcome => rfl

theorem confirm_of_faultless (faultless : conditions.faults = []) (sound : tables.Sound shape)
    (universal : tables.InUniversalTime) (root : Bytes) (minedAt : Timestamp) :
    let confirmed := confirm .declared conditions [] root minedAt tables
    match minedAt.toUniversal? with
    | none => confirmed.result = .error .dateOutOfRange ∧ confirmed.tables = tables
    | some given => Settles tables root given confirmed := by
  intro confirmed
  cases converted : minedAt.toUniversal? with
  | none =>
      have unreadable : Checkpoints.universal minedAt = .error .dateOutOfRange := by
        rw [Checkpoints.universal, converted]
      have applied := applyStatus_of_not_universal .declared conditions [] root unreadable tables
      have course : confirmed = { result := .error .dateOutOfRange, counted := false, tables } := by
        simp only [confirmed, confirm, applied]
      rw [course]
      exact ⟨rfl, rfl⟩
  | some given =>
      have noUpdateFault := Conditions.strikes_of_faultless faultless .update
      cases recorded : tables.withRoot? root with
      | none =>
          have passed : passes .declared conditions root .mined (some given) 2 .nothing [] tables =
              (.error (.refused (.unknownRoot root)), tables) := by
            simp [passes, Interference.apply, examine, Checkpoints.get, recorded, bind, Except.bind]
          have course : confirmed = _ := confirm_of_passes faultless converted passed
          rw [course]
          exact Or.inl ⟨⟨_, rfl⟩, rfl⟩
      | some checkpoint =>
          cases status : checkpoint.status with
          | pending =>
              have examined := examine_of_pending recorded status given
              have written := settle_of_status sound.lawful recorded given
              have named := Tables.root_of_withRoot? recorded
              have reread : Checkpoints.get (tables.replacing (checkpoint.confirmed given)) root =
                  .ok (checkpoint.confirmed given) := by
                rw [Checkpoints.get,
                  Tables.withRoot?_replacing recorded (checkpoint.confirmed given) named]
              have passed : passes .declared conditions root .mined (some given) 2 .nothing [] tables =
                  (.ok (checkpoint.confirmed given, true),
                    tables.replacing (checkpoint.confirmed given)) := by
                simp [passes, Interference.apply, examined, noUpdateFault, written, reread]
              have course : confirmed = _ := confirm_of_passes faultless converted passed
              rw [course]
              exact Or.inr ⟨_, rfl, Or.inr ⟨checkpoint, recorded, status, rfl⟩⟩
          | mined =>
              have member : checkpoint ∈ tables.checkpoints := List.mem_of_find?_eq_some recorded
              obtain ⟨settled, same⟩ := universal.confirmed sound.timed member status
              rw [same] at recorded
              have examined := examine_of_confirmed recorded given
              rw [repeated] at examined
              by_cases earlier : given.elapsed < settled.elapsed
              · rw [if_pos earlier] at examined
                have passed : passes .declared conditions root .mined (some given) 2 .nothing []
                    tables = (.error (.refused (.earlierTime root (.ofCivil settled)
                      (.ofCivil given))), tables) := by
                  simp [passes, Interference.apply, examined, Except.map]
                have course : confirmed = _ := confirm_of_passes faultless converted passed
                rw [course]
                exact Or.inl ⟨⟨_, rfl⟩, rfl⟩
              · rw [if_neg earlier] at examined
                have passed : passes .declared conditions root .mined (some given) 2 .nothing []
                    tables = (.ok (checkpoint.confirmed settled, false), tables) := by
                  simp [passes, Interference.apply, examined, Except.map]
                have course : confirmed = _ := confirm_of_passes faultless converted passed
                rw [course]
                exact Or.inr ⟨_, rfl, Or.inl rfl⟩

end Confirmation

end CommitmentLog
