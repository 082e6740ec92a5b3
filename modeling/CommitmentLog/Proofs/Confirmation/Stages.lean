import CommitmentLog.Confirmation.Race
import CommitmentLog.Proofs.Confirmation.Settle

/-!
# Confirmations by single statements

The statements of a confirmation one by one, with other writers between them, come to what the confirmation
as a whole comes to.
-/

set_option autoImplicit false

namespace CommitmentLog.Confirmation

open Store

/-! ## One confirmation among other writers -/

namespace Stage

variable {schema : Schema} {conditions : Conditions} {root : Bytes} {script : List Interruption}
  {tables after : Tables} {given : Civil} {spare : Nat} {checkpoint : Checkpoint}

/-! ## Single statements -/

theorem next_of_due
    (examined : examine tables root .mined (some given) = .ok (checkpoint, true)) :
    (checking given spare).next schema root tables =
      (.writing given spare checkpoint.status, tables) := by
  simp only [next, examined]

theorem next_of_unwritten (result : Except Failure Checkpoint)
    (examined : examine tables root .mined (some given) = result.map fun row => (row, false)) :
    (checking given spare).next schema root tables = (.ended result false, tables) := by
  rw [next, examined]
  cases result with
  | error failure => rfl
  | ok row => rfl

theorem next_of_settled {prior : Status}
    (settled : settle schema tables root prior .mined (some given) = some (after, 1)) :
    (writing given spare prior).next schema root tables = (.rereading, after) := by
  simp only [next, settled, if_true]

theorem next_of_lost {prior : Status} {touched : Nat} (lost : touched ≠ 1)
    (settled : settle schema tables root prior .mined (some given) = some (after, touched)) :
    (writing given spare prior).next schema root tables = (pass root given spare, after) := by
  simp only [next, settled, if_neg lost]

theorem next_of_rejected {prior : Status}
    (rejected : settle schema tables root prior .mined (some given) = none) :
    (writing given spare prior).next schema root tables =
      (conclude (.error (.refused .storageFailed)), tables) := by
  simp only [next, rejected]
  rfl

theorem isOver_conclude (outcome : Except Failure (Checkpoint × Bool)) :
    (conclude outcome).isOver = true := by
  cases outcome with
  | error failure => rfl
  | ok result =>
      rw [conclude]
      split
      · rfl
      · rfl

/-! ## One confirmation among other writers -/

/-- A confirmation up to its end, with what another writer does before each of its statements. -/
def among (schema : Schema) (root : Bytes) : List Interference → Stage → Tables → Stage × Tables
  | [], stage, tables => (stage, tables)
  | before :: later, stage, tables =>
      if stage.isOver then (stage, tables)
      else
        let (stage, tables) := stage.next schema root (before.apply schema root tables)
        among schema root later stage tables

/-- What the other writers of a script do, statement by statement, in so many passes. -/
def interferences : Nat → Interference → List Interruption → List Interference
  | 0, before, _ => [before]
  | remaining + 1, before, script =>
      before :: (script.headD {}).afterCheck ::
        interferences remaining (script.headD {}).beforeRead script.tail

theorem among_of_over {stage : Stage} (finished : stage.isOver = true) (later : List Interference) :
    among schema root later stage tables = (stage, tables) := by
  cases later with
  | nil => rfl
  | cons before later => rw [among, if_pos finished]

theorem among_of_next {stage other : Stage} {before : Interference} (going : stage.isOver = false)
    (stepped : stage.next schema root (before.apply schema root tables) = (other, after))
    (later : List Interference) :
    among schema root (before :: later) stage tables = among schema root later other after := by
  rw [among, going, stepped]
  rfl

/-- A confirmation has ended with the outcome of a change of status.  It leaves the same tables if it has
written; otherwise its own transaction comes to nothing. -/
structure EndsAs (ended : Stage × Tables) (outcome : Outcome) : Prop where
  stage : ended.1 = conclude outcome.1
  tables : ended.1.counted = true → ended.2 = outcome.2

theorem endsAs_of_unwritten (result : Except Failure (Checkpoint × Bool)) (left other : Tables)
    (later : List Interference) (unwritten : (conclude result).counted = false) :
    EndsAs (among schema root later (conclude result) left) (result, other) := by
  rw [among_of_over (isOver_conclude result)]
  exact ⟨rfl, fun counted => absurd (unwritten.symm.trans counted) Bool.false_ne_true⟩

theorem among_rereading (before : Interference) (later : List Interference) :
    among schema root (before :: later) .rereading tables =
      (conclude ((Checkpoints.get (before.apply schema root tables) root).map fun row => (row, true)),
        before.apply schema root tables) := by
  rw [among_of_next rfl rfl, among_of_over (isOver_conclude _)]

theorem interferences_eq_cons (remaining : Nat) (before : Interference)
    (script : List Interruption) :
    ∃ later, interferences remaining before script = before :: later := by
  cases remaining with
  | zero => exact ⟨_, rfl⟩
  | succ remaining => exact ⟨_, rfl⟩

theorem among_passes (calm : conditions.strikes .update = false) (given : Civil) (remaining : Nat)
    (before : Interference) :
    EndsAs (among schema root (interferences remaining before script) (pass root given remaining) tables)
      (passes schema conditions root .mined (some given) remaining before script tables) := by
  induction remaining generalizing before script tables with
  | zero => exact endsAs_of_unwritten (.error (.refused (.keepsChanging root))) tables tables [before] rfl
  | succ remaining inductionHypothesis =>
      rw [passes, interferences, pass]
      cases examined : examine (before.apply schema root tables) root .mined (some given) with
      | error failure =>
          rw [among_of_next rfl (next_of_unwritten (.error failure) examined)]
          exact endsAs_of_unwritten (.error failure) _ _ _ rfl
      | ok result =>
          obtain ⟨checkpoint, due⟩ := result
          cases due with
          | false =>
              rw [among_of_next rfl (next_of_unwritten (.ok checkpoint) examined)]
              exact endsAs_of_unwritten (.ok (checkpoint, false)) _ _ _ rfl
          | true =>
              rw [among_of_next rfl (next_of_due examined)]
              simp only [Bool.not_true, Bool.false_eq_true, if_false, calm]
              cases settled : settle schema ((script.headD {}).afterCheck.apply schema root
                (before.apply schema root tables)) root checkpoint.status .mined (some given) with
              | none =>
                  rw [among_of_next rfl (next_of_rejected settled)]
                  exact endsAs_of_unwritten (.error (.refused .storageFailed)) _ _ _ rfl
              | some outcome =>
                  obtain ⟨after, touched⟩ := outcome
                  by_cases once : touched = 1
                  · subst once
                    obtain ⟨later, first⟩ := interferences_eq_cons remaining
                      (script.headD {}).beforeRead script.tail
                    rw [among_of_next rfl (next_of_settled settled), first, among_rereading]
                    simp only [if_true]
                    cases Checkpoints.get ((script.headD {}).beforeRead.apply schema root after) root with
                    | error failure => exact ⟨rfl, fun _ => rfl⟩
                    | ok reread => exact ⟨rfl, fun _ => rfl⟩
                  · -- Another writer came first.  What it does before the next reading begins that pass.
                    rw [among_of_next rfl (next_of_lost once settled)]
                    simp only [if_neg once]
                    exact inductionHypothesis (script.headD {}).beforeRead

theorem conclude_of_applied (committed : conditions.strikes .commit = false) {minedAt : Timestamp}
    {outcome : Outcome}
    (applied : applyStatus schema conditions script root .mined (some minedAt) tables = outcome) :
    let confirmed := confirm schema conditions script root minedAt tables
    conclude outcome.1 = .ended confirmed.result confirmed.counted ∧
      (confirmed.counted = true → outcome.2 = confirmed.tables) := by
  obtain ⟨result, after⟩ := outcome
  rw [confirm, applied]
  cases result with
  | error failure => exact ⟨rfl, fun counted => absurd counted Bool.false_ne_true⟩
  | ok result =>
      obtain ⟨checkpoint, written⟩ := result
      simp only [committed, Bool.false_eq_true, if_false, conclude]
      split
      · exact ⟨rfl, fun _ => rfl⟩
      · exact ⟨rfl, fun _ => rfl⟩

/-- A confirmation as a whole is its statements one by one, with the other writers of the script between
them. -/
theorem confirm_by_statements (calm : conditions.strikes .update = false)
    (committed : conditions.strikes .commit = false) (minedAt : Timestamp) :
    let confirmed := confirm schema conditions script root minedAt tables
    let ended := among schema root (interferences 2 .nothing script) (start root minedAt) tables
    ended.1 = .ended confirmed.result confirmed.counted ∧
      (confirmed.counted = true → ended.2 = confirmed.tables) := by
  intro confirmed ended
  obtain ⟨outcome, applied⟩ :
      ∃ outcome, applyStatus schema conditions script root .mined (some minedAt) tables = outcome :=
    ⟨_, rfl⟩
  have endsAs : EndsAs ended outcome := by
    rw [← applied]
    cases universal : Checkpoints.universal minedAt with
    | error failure =>
        have started : ended = among schema root (interferences 2 .nothing script)
            (conclude (.error failure)) tables := by
          simp only [ended, start, universal, conclude]
        rw [started, applyStatus_of_not_universal schema conditions script root universal]
        exact endsAs_of_unwritten (.error failure) tables tables _ rfl
    | ok given =>
        have started : ended = among schema root (interferences 2 .nothing script)
            (pass root given 2) tables := by
          simp only [ended, start, universal]
        rw [started, applyStatus_of_universal schema conditions script root universal]
        exact among_passes calm given 2 .nothing
  obtain ⟨concluded, keeps⟩ := conclude_of_applied committed applied
  have stage := endsAs.stage.trans concluded
  refine ⟨stage, ?_⟩
  intro counted
  have written : ended.1.counted = true := by
    rw [stage]
    exact counted
  exact (endsAs.tables written).trans (keeps counted)

end Stage

end CommitmentLog.Confirmation
