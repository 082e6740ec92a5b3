import CommitmentLog.Appender.Audit
import CommitmentLog.Appender.Recovery

/-!
# Under the lock

An operation that enters finds the lock free, holds it for as long as it lasts and leaves it free.  So what it
comes to can be said of the appender without its lock.
-/

set_option autoImplicit false

namespace CommitmentLog.Appender

variable {setup : Setup} {conditions : Conditions} {appender : Appender}

theorem unlocked_of_enter (entered : appender.enter setup = .ok ()) : appender.locked = false := by
  unfold enter at entered
  split at entered
  case h_1 => cases entered
  case h_2 =>
    split at entered
    case isTrue => cases entered
    case isFalse free => exact Bool.not_eq_true _ ▸ free

/-! ## Taking and giving back -/

section Held

variable (free : appender.locked = false)

include free

/-- The appender as it comes out of the lock when its tree and its halt have been set. -/
theorem release_of_held (tree : Option (Tree.State Bytes)) (halted : Option String) :
    ({ appender.hold.2 with tree, halted } : Appender).release.2 = { appender with tree, halted } := by
  obtain ⟨_, _, locked⟩ := appender
  cases free
  rfl

theorem release_hold : appender.hold.2.release.2 = appender :=
  release_of_held free appender.tree appender.halted

theorem release_afterFailure (failure : Failure) :
    (appender.hold.2.afterFailure failure).release.2 = appender.afterFailure failure := by
  cases failure with
  | refused refusal =>
      rw [afterFailure, afterFailure]
      split
      · exact release_of_held free none (some refusal.wording)
      · exact release_hold free
  | _ => exact release_hold free

end Held

theorem exclusively_of_refused {Result : Type} {failure : Failure}
    (refused : appender.enter setup = .error failure) (action : Appender → Result × Appender) :
    appender.exclusively setup action = (.error failure, appender) := by
  rw [exclusively, refused]

theorem exclusively_of_entered {Result : Type} (entered : appender.enter setup = .ok ())
    (action : Appender → Result × Appender) :
    appender.exclusively setup action =
      (.ok (action appender.hold.2).1, (action appender.hold.2).2.release.2) := by
  rw [exclusively, entered]

/-! ## The operations -/

theorem recoverOver_eq (setup : Setup) (conditions : Conditions) (leavesIn latestIn : Tables)
    (appender : Appender) :
    appender.recoverOver setup conditions leavesIn latestIn =
      match appender.enter setup with
      | .error failure => (.error failure, appender)
      | .ok () =>
          match appender.running with
          | .error failure => (.error failure, appender)
          | .ok () =>
              match setup.loadTreeOver conditions leavesIn latestIn with
              | .ok tree => (.ok tree, { appender with tree := some tree })
              | .error failure => (.error (retriable failure), appender.afterFailure failure) := by
  rw [recoverOver]
  cases entered : appender.enter setup with
  | error failure =>
      rw [exclusively_of_refused entered]
      rfl
  | ok =>
      have free := unlocked_of_enter entered
      have sameHalt : appender.hold.2.running = appender.running := rfl
      rw [exclusively_of_entered entered]
      simp only [sameHalt]
      cases appender.running with
      | error failure => exact congrArg (Prod.mk _) (release_hold free)
      | ok =>
          cases setup.loadTreeOver conditions leavesIn latestIn with
          | ok tree => exact congrArg (Prod.mk _) (release_of_held free (some tree) appender.halted)
          | error failure => exact congrArg (Prod.mk _) (release_afterFailure free failure)

theorem recover_eq (setup : Setup) (conditions : Conditions) (tables : Tables) (appender : Appender) :
    appender.recover setup conditions tables =
      match appender.enter setup with
      | .error failure => (.error failure, appender)
      | .ok () =>
          match appender.running with
          | .error failure => (.error failure, appender)
          | .ok () =>
              match setup.loadTree conditions tables with
              | .ok tree => (.ok tree, { appender with tree := some tree })
              | .error failure => (.error (retriable failure), appender.afterFailure failure) :=
  recoverOver_eq setup conditions tables tables appender

theorem auditOver_eq (setup : Setup) (conditions : Conditions) (leavesIn checkpointsIn : Tables)
    (appender : Appender) :
    appender.auditOver setup conditions leavesIn checkpointsIn =
      match appender.enter setup with
      | .error failure => (.error failure, appender)
      | .ok () =>
          match setup.auditOver conditions leavesIn checkpointsIn with
          | .ok report => (.ok report, appender)
          | .error failure => (.error (retriable failure), appender.afterFailure failure) := by
  rw [auditOver]
  cases entered : appender.enter setup with
  | error failure =>
      rw [exclusively_of_refused entered]
      rfl
  | ok =>
      have free := unlocked_of_enter entered
      rw [exclusively_of_entered entered]
      cases setup.auditOver conditions leavesIn checkpointsIn with
      | ok report => exact congrArg (Prod.mk _) (release_hold free)
      | error failure => exact congrArg (Prod.mk _) (release_afterFailure free failure)

theorem audit_eq (setup : Setup) (conditions : Conditions) (tables : Tables) (appender : Appender) :
    appender.audit setup conditions tables =
      match appender.enter setup with
      | .error failure => (.error failure, appender)
      | .ok () =>
          match setup.auditOver conditions tables tables with
          | .ok report => (.ok report, appender)
          | .error failure => (.error (retriable failure), appender.afterFailure failure) :=
  auditOver_eq setup conditions tables tables appender

theorem resetHalt_eq (setup : Setup) (appender : Appender) :
    appender.resetHalt setup =
      match appender.enter setup with
      | .error failure => (.error failure, appender)
      | .ok () => (.ok (), { appender with halted := none, tree := none }) := by
  rw [resetHalt]
  cases entered : appender.enter setup with
  | error failure => rw [exclusively_of_refused entered]
  | ok =>
      rw [exclusively_of_entered entered]
      exact congrArg (Prod.mk _) (release_of_held (unlocked_of_enter entered) none none)

end CommitmentLog.Appender
