import CommitmentLog.Proofs.Confirmation.Settle
import CommitmentLog.Proofs.Confirmation.Stages

/-!
# Calls before and after the first write

As long as the checkpoint is pending, a call that reads it waits to write, and the first one that writes
settles the root.  Once the root is settled, a call that still meant to write loses its pass, and every call
that reads the checkpoint ends there.
-/

set_option autoImplicit false

namespace CommitmentLog.Confirmation

open Store

namespace Stage

/-- A confirmation that has found the checkpoint pending, or has not looked at it yet. -/
inductive Waiting (given : Civil) : Stage → Prop where
  | checking : Waiting given (.checking given 1)
  | writing : Waiting given (.writing given 1 .pending)

/-- A confirmation of a root that another one has settled. -/
inductive Late (root : Bytes) (recorded : Checkpoint) (settled given : Civil) : Stage → Prop where
  | checking (spare : Nat) : Late root recorded settled given (.checking given spare)
  | writing : Late root recorded settled given (.writing given 1 .pending)
  | ended : Late root recorded settled given (.ended (repeated root recorded settled given) false)

theorem Waiting.late {root : Bytes} {recorded : Checkpoint} {settled given : Civil} {stage : Stage}
    (waiting : Waiting given stage) : Late root recorded settled given stage := by
  cases waiting with
  | checking => exact .checking 1
  | writing => exact .writing

theorem Waiting.going {given : Civil} {stage : Stage} (waiting : Waiting given stage) :
    stage.isOver = false := by
  cases waiting with
  | checking => rfl
  | writing => rfl

theorem Late.eq_of_over {root : Bytes} {recorded : Checkpoint} {settled given : Civil} {stage : Stage}
    (late : Late root recorded settled given stage) (finished : stage.isOver = true) :
    stage = .ended (repeated root recorded settled given) false := by
  cases late with
  | checking spare => cases finished
  | writing => cases finished
  | ended => rfl

/-- The statements that a confirmation still has to carry out in a race at most. -/
def remaining : Stage → Nat
  | .checking _ 0 => 1
  | .checking _ (_ + 1) => 3
  | .writing _ _ _ => 2
  | .rereading => 1
  | .ended _ _ => 0

variable {tables : Tables} {root : Bytes} {checkpoint : Checkpoint} {given settled : Civil}
  {stage : Stage}

theorem remaining_eq_zero_iff (stage : Stage) : stage.remaining = 0 ↔ stage.isOver = true := by
  cases stage with
  | checking given spare => cases spare <;> simp [remaining, isOver]
  | writing given spare prior => simp [remaining, isOver]
  | rereading => simp [remaining, isOver]
  | ended result counted => simp [remaining, isOver]

theorem remaining_le_three (stage : Stage) : stage.remaining ≤ 3 := by
  cases stage with
  | checking given spare => cases spare <;> simp [remaining]
  | _ => simp [remaining]

section Recorded

variable (recorded : tables.withRoot? root = some checkpoint)

include recorded

theorem next_checking_of_pending (pending : checkpoint.status = .pending) (given : Civil)
    (spare : Nat) :
    (checking given spare).next .declared root tables = (.writing given spare .pending, tables) := by
  rw [next_of_due (examine_of_pending recorded pending given), pending]

theorem next_writing_of_pending (lawful : tables.Lawful) (pending : checkpoint.status = .pending)
    (given : Civil) (spare : Nat) :
    (writing given spare .pending).next .declared root tables =
      (.rereading, tables.replacing (checkpoint.confirmed given)) :=
  next_of_settled (pending ▸ settle_of_status lawful recorded given)

end Recorded

section Confirmed

variable (recorded : tables.withRoot? root = some (checkpoint.confirmed settled))

include recorded

theorem next_checking_of_confirmed (given : Civil) (spare : Nat) :
    (checking given spare).next .declared root tables =
      (.ended (repeated root (checkpoint.confirmed settled) settled given) false, tables) :=
  next_of_unwritten _ (examine_of_confirmed recorded given)

theorem next_writing_of_confirmed (lawful : tables.Lawful) (given : Civil) (spare : Nat) :
    (writing given spare .pending).next .declared root tables = (pass root given spare, tables) := by
  have gone : (checkpoint.confirmed settled).status ≠ .pending := by
    intro same
    cases same
  exact next_of_lost Nat.zero_ne_one (settle_of_ne lawful recorded gone given)

theorem next_rereading_of_confirmed :
    rereading.next .declared root tables =
      (.ended (.ok (checkpoint.confirmed settled)) true, tables) := by
  rw [next, Checkpoints.get, recorded]
  rfl

end Confirmed

/-- A call that waits goes on waiting, or it is the one that settles the root. -/
theorem Waiting.next_cases (lawful : tables.Lawful)
    (recorded : tables.withRoot? root = some checkpoint) (pending : checkpoint.status = .pending)
    (waiting : Waiting given stage) :
    (∃ later, stage.next .declared root tables = (later, tables) ∧ Waiting given later ∧
        later.counted = false ∧ later.remaining < stage.remaining) ∨
      stage.next .declared root tables =
        (.rereading, tables.replacing (checkpoint.confirmed given)) ∧ 1 < stage.remaining := by
  cases waiting with
  | checking =>
      have reads := next_checking_of_pending recorded pending given 1
      exact Or.inl ⟨_, reads, .writing, rfl, by simp [remaining]⟩
  | writing =>
      have writes := next_writing_of_pending recorded lawful pending given 1
      exact Or.inr ⟨writes, by simp [remaining]⟩

theorem Late.next_cases (lawful : tables.Lawful)
    (recorded : tables.withRoot? root = some (checkpoint.confirmed settled))
    (late : Late root (checkpoint.confirmed settled) settled given stage) :
    stage.isOver = true ∨
      ∃ later, stage.next .declared root tables = (later, tables) ∧
        Late root (checkpoint.confirmed settled) settled given later ∧
        later.counted = false ∧ later.remaining < stage.remaining := by
  cases late with
  | checking spare =>
      have ends := next_checking_of_confirmed recorded given spare
      refine Or.inr ⟨_, ends, .ended, rfl, ?_⟩
      cases spare <;> simp [remaining]
  | writing =>
      have loses := next_writing_of_confirmed recorded lawful given 1
      exact Or.inr ⟨_, loses, .checking 0, rfl, by simp [pass, remaining]⟩
  | ended => exact Or.inl rfl

end Stage

end CommitmentLog.Confirmation
