import CommitmentLog.Appender.Audit
import CommitmentLog.Proofs.Appender.Recovery

/-!
# The halt of an appender

An appender stops when one of its own operations tells the caller of a violation of integrity, and for no
other reason.  It stops by name of the violation and forgets its tree, and while it stands still appends and
recoveries leave it as it is.  An appender without a tree stays without one until an append or a recovery
succeeds, and such a success takes recoverable tables.
-/

set_option autoImplicit false

namespace CommitmentLog

/-- The result tells the caller of a violation of integrity, in these words. -/
def TellsViolation {α : Type} (result : Except Failure α) (reason : String) : Prop :=
  ∃ refusal, result = .error (.refused refusal) ∧ refusal.category = .integrityViolation ∧
    refusal.wording = reason

theorem not_tellsViolation_ok {α : Type} (value : α) (reason : String) :
    ¬TellsViolation (.ok value) reason := by
  rintro ⟨refusal, told, _⟩
  cases told

theorem tellsViolation_map {α β : Type} (answer : α → β) (result : Except Failure α)
    (reason : String) :
    TellsViolation (result.map answer) reason ↔ TellsViolation result reason := by
  cases result with
  | error failure => simp [TellsViolation, Except.map]
  | ok value => simp [TellsViolation, Except.map]

namespace Appender

variable {setup : Setup} {conditions : Conditions} {clock : Binary} {tables : Tables}
  {appender : Appender} {commitment : Bytes} {reason : String}

def Latched (appender : Appender) : Prop :=
  ∀ reason, appender.halted = some reason → appender.tree = none

/-! ## Stopping -/

theorem not_tellsViolation_of_enter {α : Type} {failure : Failure}
    (entered : appender.enter setup = .error failure) (reason : String) :
    ¬TellsViolation (.error failure : Except Failure α) reason := by
  rintro ⟨refusal, told, violation, _⟩
  cases told
  unfold enter at entered
  split at entered
  case h_1 waits =>
    cases entered
    unfold Setup.waitFailure? at waits
    split at waits
    · cases waits
    · split at waits
      · cases waits
      · cases waits
  case h_2 =>
    split at entered
    · cases entered
      cases violation
    · cases entered

theorem afterFailure_halted_iff {α : Type} (runs : appender.halted = none) (failure : Failure) :
    (appender.afterFailure failure).halted = some reason ↔
      TellsViolation (.error (retriable failure) : Except Failure α) reason := by
  rcases afterFailure_cases appender failure with ⟨refusal, told, violation, stopped⟩ | ⟨other, same⟩
  · rw [stopped, told]
    constructor
    · intro halted
      exact ⟨refusal, rfl, violation, Option.some.inj halted⟩
    · rintro ⟨same, tells, _, words⟩
      cases tells
      exact congrArg some words
  · rw [same, runs]
    constructor
    · intro halted
      cases halted
    · rintro ⟨refusal, tells, violation, _⟩
      exact absurd violation (other refusal (Except.error.inj tells))

theorem append_halted_iff (setup : Setup) (conditions : Conditions) (clock : Binary)
    (tables : Tables) (commitment : Bytes) (runs : appender.halted = none) (reason : String) :
    let outcome := appender.append setup conditions clock tables commitment
    outcome.appender.halted = some reason ↔ TellsViolation outcome.result reason := by
  intro outcome
  rcases append_cases setup conditions clock tables appender commitment with
    ⟨failure, busy, course⟩ | ⟨other, stopped, _⟩ | ⟨_, _, cause, later, _, course⟩ |
      ⟨_, _, appended, later, _, course⟩
  · simp only [outcome, course, runs, not_tellsViolation_of_enter busy, reduceCtorEq]
  · rw [runs] at stopped
    cases stopped
  · simp only [outcome, course]
    exact afterFailure_halted_iff runs cause
  · simp only [outcome, course, runs, not_tellsViolation_ok, reduceCtorEq]

theorem recover_cases (setup : Setup) (conditions : Conditions) (tables : Tables)
    (appender : Appender) :
    let outcome := appender.recover setup conditions tables
    (∃ failure, appender.enter setup = .error failure ∧ outcome = (.error failure, appender)) ∨
      (∃ reason, appender.halted = some reason ∧
        outcome = (.error (.refused (.halted reason)), appender)) ∨
      (appender.halted = none ∧ ∃ cause, setup.loadTree conditions tables = .error cause ∧
        outcome = (.error (retriable cause), appender.afterFailure cause)) ∨
      (appender.halted = none ∧ ∃ tree, setup.loadTree conditions tables = .ok tree ∧
        outcome = (.ok tree, { appender with tree := some tree })) := by
  intro outcome
  cases entered : appender.enter setup with
  | error failure => exact Or.inl ⟨failure, rfl, by simp [outcome, recover_eq, entered]⟩
  | ok =>
      right
      cases halted : appender.halted with
      | some reason =>
          have stopped : appender.running = .error (.refused (.halted reason)) := by
            simp [running, halted]
          exact Or.inl ⟨reason, rfl, by simp [outcome, recover_eq, entered, stopped]⟩
      | none =>
          have runs : appender.running = .ok () := by simp [running, halted]
          right
          cases loaded : setup.loadTree conditions tables with
          | error cause =>
              exact Or.inl ⟨rfl, cause, rfl, by simp [outcome, recover_eq, entered, runs, loaded]⟩
          | ok tree =>
              refine Or.inr ⟨rfl, tree, rfl, ?_⟩
              simp [outcome, recover_eq, entered, runs, loaded, halted]

theorem recover_halted_iff (setup : Setup) (conditions : Conditions) (tables : Tables)
    (runs : appender.halted = none) (reason : String) :
    let outcome := appender.recover setup conditions tables
    outcome.2.halted = some reason ↔ TellsViolation outcome.1 reason := by
  intro outcome
  rcases recover_cases setup conditions tables appender with
    ⟨failure, busy, course⟩ | ⟨other, stopped, _⟩ | ⟨_, cause, _, course⟩ | ⟨_, tree, _, course⟩
  · simp only [outcome, course, runs, not_tellsViolation_of_enter busy, reduceCtorEq]
  · rw [runs] at stopped
    cases stopped
  · simp only [outcome, course]
    exact afterFailure_halted_iff runs cause
  · simp only [outcome, course, runs, not_tellsViolation_ok, reduceCtorEq]

theorem audit_cases (setup : Setup) (conditions : Conditions) (tables : Tables)
    (appender : Appender) :
    let outcome := appender.audit setup conditions tables
    (∃ failure, appender.enter setup = .error failure ∧ outcome = (.error failure, appender)) ∨
      (∃ cause, outcome = (.error (retriable cause), appender.afterFailure cause)) ∨
      ∃ report, outcome = (.ok report, appender) := by
  intro outcome
  cases entered : appender.enter setup with
  | error failure => exact Or.inl ⟨failure, rfl, by simp [outcome, audit_eq, entered]⟩
  | ok =>
      right
      cases audited : setup.auditOver conditions tables tables with
      | error cause => exact Or.inl ⟨cause, by simp [outcome, audit_eq, entered, audited]⟩
      | ok report => exact Or.inr ⟨report, by simp [outcome, audit_eq, entered, audited]⟩

theorem audit_halted_iff (setup : Setup) (conditions : Conditions) (tables : Tables)
    (runs : appender.halted = none) (reason : String) :
    let outcome := appender.audit setup conditions tables
    outcome.2.halted = some reason ↔ TellsViolation outcome.1 reason := by
  intro outcome
  rcases audit_cases setup conditions tables appender with
    ⟨failure, busy, course⟩ | ⟨cause, course⟩ | ⟨report, course⟩
  · simp only [outcome, course, runs, not_tellsViolation_of_enter busy, reduceCtorEq]
  · simp only [outcome, course]
    exact afterFailure_halted_iff runs cause
  · simp only [outcome, course, runs, not_tellsViolation_ok, reduceCtorEq]

/-! ## Standing still -/

theorem halted_of_afterFailure (stopped : appender.halted.isSome) (failure : Failure) :
    (appender.afterFailure failure).halted.isSome := by
  rcases afterFailure_cases appender failure with ⟨refusal, _, _, halted⟩ | ⟨_, same⟩
  · rw [halted]
    rfl
  · rwa [same]

/-- Entry or not, a stopped appender is as it was after an append, and so are the tables. -/
theorem append_stands (setup : Setup) (conditions : Conditions) (clock : Binary) (tables : Tables)
    (commitment : Bytes) (stopped : appender.halted = some reason) :
    let outcome := appender.append setup conditions clock tables commitment
    (∃ failure, outcome.result = .error failure) ∧ outcome.appender = appender ∧
      outcome.tables = tables := by
  intro outcome
  rcases append_cases setup conditions clock tables appender commitment with
    ⟨failure, _, course⟩ | ⟨other, _, course⟩ | ⟨_, runs, _⟩ | ⟨_, runs, _⟩
  · simp [outcome, course]
  · simp [outcome, course]
  · rw [stopped] at runs
    cases runs
  · rw [stopped] at runs
    cases runs

theorem recover_stands (setup : Setup) (conditions : Conditions) (tables : Tables)
    (stopped : appender.halted = some reason) :
    (appender.recover setup conditions tables).2 = appender := by
  rcases recover_cases setup conditions tables appender with
    ⟨failure, _, course⟩ | ⟨other, _, course⟩ | ⟨runs, _⟩ | ⟨runs, _⟩
  · rw [course]
  · rw [course]
  · rw [stopped] at runs
    cases runs
  · rw [stopped] at runs
    cases runs

theorem recover_of_halted (setup : Setup) (conditions : Conditions) (tables : Tables)
    (entered : appender.enter setup = .ok ()) (stopped : appender.halted = some reason) :
    appender.recover setup conditions tables =
      (.error (.refused (.halted reason)), appender) := by
  simp [recover_eq, entered, running, stopped]

theorem audit_stands (setup : Setup) (conditions : Conditions) (tables : Tables)
    (stopped : appender.halted.isSome) :
    (appender.audit setup conditions tables).2.halted.isSome := by
  rcases audit_cases setup conditions tables appender with
    ⟨failure, _, course⟩ | ⟨cause, course⟩ | ⟨report, course⟩
  · rwa [course]
  · rw [course]
    exact halted_of_afterFailure stopped cause
  · rwa [course]

theorem audit_of_cleared (setup : Setup) (conditions : Conditions) (tables : Tables)
    (appender : Appender) :
    (({ appender with halted := none } : Appender).audit setup conditions tables).1 =
      (appender.audit setup conditions tables).1 := by
  have sameEntry : ({ appender with halted := none } : Appender).enter setup =
      appender.enter setup := rfl
  rw [audit_eq, audit_eq, sameEntry]
  split
  · rfl
  · split
    · rfl
    · rfl

/-! ## Resets and the lock -/

theorem resetHalt_cases (setup : Setup) (appender : Appender) :
    (∃ failure, appender.resetHalt setup = (.error failure, appender)) ∨
      appender.resetHalt setup = (.ok (), { appender with halted := none, tree := none }) := by
  cases entered : appender.enter setup with
  | error failure => exact Or.inl ⟨failure, by simp [resetHalt_eq, entered]⟩
  | ok => exact Or.inr (by simp [resetHalt_eq, entered])

theorem release_keeps (appender : Appender) :
    appender.release.2.halted = appender.halted ∧ appender.release.2.tree = appender.tree := by
  rw [release]
  split
  · exact ⟨rfl, rfl⟩
  · exact ⟨rfl, rfl⟩

/-! ## No tree while it stands still -/

namespace Latched

theorem of_runs (runs : appender.halted = none) : appender.Latched := by
  intro reason stopped
  rw [runs] at stopped
  cases stopped

theorem afterFailure (latched : appender.Latched) (failure : Failure) :
    (appender.afterFailure failure).Latched := by
  rcases afterFailure_cases appender failure with ⟨refusal, _, _, halted⟩ | ⟨_, same⟩
  · rw [halted]
    intro reason _
    rfl
  · rwa [same]

theorem append (latched : appender.Latched) (setup : Setup) (conditions : Conditions)
    (clock : Binary) (tables : Tables) (commitment : Bytes) :
    (appender.append setup conditions clock tables commitment).appender.Latched := by
  rcases append_cases setup conditions clock tables appender commitment with
    ⟨failure, _, course⟩ | ⟨other, _, course⟩ | ⟨_, _, cause, later, _, course⟩ |
      ⟨_, runs, appended, later, _, course⟩
  · rwa [course]
  · rwa [course]
  · rw [course]
    exact latched.afterFailure cause
  · rw [course]
    exact of_runs runs

theorem recover (latched : appender.Latched) (setup : Setup) (conditions : Conditions)
    (tables : Tables) : (appender.recover setup conditions tables).2.Latched := by
  rcases recover_cases setup conditions tables appender with
    ⟨failure, _, course⟩ | ⟨other, _, course⟩ | ⟨_, cause, _, course⟩ | ⟨runs, tree, _, course⟩
  · rwa [course]
  · rwa [course]
  · rw [course]
    exact latched.afterFailure cause
  · rw [course]
    exact of_runs runs

theorem audit (latched : appender.Latched) (setup : Setup) (conditions : Conditions)
    (tables : Tables) : (appender.audit setup conditions tables).2.Latched := by
  rcases audit_cases setup conditions tables appender with
    ⟨failure, _, course⟩ | ⟨cause, course⟩ | ⟨report, course⟩
  · rwa [course]
  · rw [course]
    exact latched.afterFailure cause
  · rwa [course]

theorem resetHalt (latched : appender.Latched) (setup : Setup) :
    (appender.resetHalt setup).2.Latched := by
  rcases resetHalt_cases setup appender with ⟨failure, course⟩ | course
  · rwa [course]
  · rw [course]
    exact of_runs rfl

theorem release (latched : appender.Latched) : appender.release.2.Latched := by
  obtain ⟨sameHalt, sameTree⟩ := release_keeps appender
  intro reason stopped
  rw [sameHalt] at stopped
  rw [sameTree]
  exact latched reason stopped

end Latched

/-! ## Without a tree -/

theorem tree_of_afterFailure (forgotten : appender.tree = none) (failure : Failure) :
    (appender.afterFailure failure).tree = none := by
  rcases afterFailure_cases appender failure with ⟨refusal, _, _, halted⟩ | ⟨_, same⟩
  · rw [halted]
  · rwa [same]

/-- An append without a tree leaves the appender without one, or succeeds on recoverable tables. -/
theorem append_of_forgotten (setup : Setup) (conditions : Conditions) (clock : Binary)
    (commitment : Bytes) (lawful : tables.Lawful) (forgotten : appender.tree = none) :
    let outcome := appender.append setup conditions clock tables commitment
    ((∃ failure, outcome.result = .error failure) ∧ outcome.appender.tree = none) ∨
      ((∃ checkpoint, outcome.result = .ok checkpoint) ∧ tables.Recoverable setup.shape) := by
  intro outcome
  rcases append_cases setup conditions clock tables appender commitment with
    ⟨failure, _, course⟩ | ⟨other, _, course⟩ | ⟨_, _, cause, later, _, course⟩ |
      ⟨_, _, appended, later, committed, course⟩
  · simp [outcome, course, forgotten]
  · simp [outcome, course, forgotten]
  · left
    simp only [outcome, course]
    exact ⟨⟨_, rfl⟩, tree_of_afterFailure forgotten cause⟩
  · right
    simp only [outcome, course]
    refine ⟨⟨_, rfl⟩, Setup.recoverable_of_transaction lawful ?_ committed⟩
    intro tree keeps
    rw [forgotten] at keeps
    cases keeps

theorem recover_of_forgotten (setup : Setup) (conditions : Conditions) (lawful : tables.Lawful)
    (forgotten : appender.tree = none) :
    let outcome := appender.recover setup conditions tables
    ((∃ failure, outcome.1 = .error failure) ∧ outcome.2.tree = none) ∨
      ((∃ tree, outcome.1 = .ok tree) ∧ tables.Recoverable setup.shape) := by
  intro outcome
  rcases recover_cases setup conditions tables appender with
    ⟨failure, _, course⟩ | ⟨other, _, course⟩ | ⟨_, cause, _, course⟩ |
      ⟨_, tree, loaded, course⟩
  · simp [outcome, course, forgotten]
  · simp [outcome, course, forgotten]
  · left
    simp only [outcome, course]
    exact ⟨⟨_, rfl⟩, tree_of_afterFailure forgotten cause⟩
  · right
    simp only [outcome, course]
    exact ⟨⟨tree, rfl⟩, Setup.recoverable_of_loadTree lawful loaded⟩

theorem audit_of_forgotten (setup : Setup) (conditions : Conditions) (tables : Tables)
    (forgotten : appender.tree = none) : (appender.audit setup conditions tables).2.tree = none := by
  rcases audit_cases setup conditions tables appender with
    ⟨failure, _, course⟩ | ⟨cause, course⟩ | ⟨report, course⟩
  · rwa [course]
  · rw [course]
    exact tree_of_afterFailure forgotten cause
  · rwa [course]

end Appender

end CommitmentLog
