import CommitmentLog.Proofs.Confirmation.Alone
import CommitmentLog.Proofs.Counters
import CommitmentLog.Proofs.Deployment.Continuity
import CommitmentLog.Proofs.Deployment.Lawful

/-!
# The counters account for the tables

A counter is raised after the transaction that it counts, when the lock has been given back already.  It is
raised exactly when the transaction has been kept.  So whatever fails on the way, the counts of what was
appended and mined are those of the rows, and the refusals that are counted are those that were answered.
-/

set_option autoImplicit false

namespace CommitmentLog

open Store

structure Call extends Event where
  shape : Tree.Shape Bytes

def Call.setup (call : Call) : Setup :=
  { shape := call.shape, timeout := call.timeout }

structure Answered where
  operation : Operation
  result : Except Failure Answer

/-- The category of the refusal if an append was refused.  Of several appends only the last one can have
been. -/
def Answered.refusedAppend? (answered : Answered) : Option Category :=
  match answered.operation, answered.result with
  | .append _ _, .error (.refused refusal) => some refusal.category
  | .appendAll _ _, .error (.refused refusal) => some refusal.category
  | _, _ => none

namespace Counters

variable {counters : Counters}

theorem afterAppend_error (α : Type) (counters : Counters) (failure : Failure) :
    ∃ refused, counters.afterAppend (.error failure : Except Failure α) = { counters with refused } := by
  cases failure with
  | refused refusal => exact ⟨_, rfl⟩
  | _ => exact ⟨counters.refused, rfl⟩

end Counters

namespace Deployment

def serve (deployment : Deployment) : List Call → List Answered × Deployment
  | [] => ([], deployment)
  | call :: rest =>
      let (result, next) := deployment.step call.setup call.conditions call.operation
      let (answers, last) := next.serve rest
      ({ operation := call.operation, result } :: answers, last)

/-- Every identity was counted when it was appended and has a checkpoint, and every mined checkpoint was
counted when it was confirmed. -/
structure Accounted (deployment : Deployment) : Prop where
  lawful : deployment.tables.Lawful
  appended : deployment.counters.appended = deployment.tables.identities.length
  measured : deployment.counters.measured = deployment.tables.identities.length
  checkpoints : deployment.tables.checkpoints.length = deployment.tables.identities.length
  mined : deployment.counters.mined = (deployment.tables.withStatus .mined).length

variable {deployment : Deployment} {setup : Setup} {conditions : Conditions}

/-! ## Appending -/

theorem append_accounted (declared : setup.schema = .declared) (conditions : Conditions) (name : String)
    (commitment : Bytes) (accounted : deployment.Accounted) :
    (deployment.append setup conditions name commitment).2.Accounted := by
  have lawful := append_lawful declared conditions name commitment accounted.lawful
  -- A failure leaves the tables and the counts as they are, except that it may count as a refusal.
  have failed {failure : Failure} {appender : Appender} {clock : Binary}
      (course : (deployment.appender name).append setup conditions deployment.clock deployment.tables
        commitment = { result := .error failure, appender, tables := deployment.tables, clock }) :
      (deployment.append setup conditions name commitment).2.Accounted := by
    obtain ⟨refused, counters⟩ :=
      Counters.afterAppend_error Checkpoint deployment.counters failure
    rw [Deployment.append, course, counters] at lawful ⊢
    exact ⟨lawful, accounted.appended, accounted.measured, accounted.checkpoints, accounted.mined⟩
  rcases Appender.append_cases setup conditions deployment.clock deployment.tables
      (deployment.appender name) commitment with
    ⟨failure, _, course⟩ | ⟨reason, _, course⟩ | ⟨_, _, cause, later, _, course⟩ |
      ⟨_, _, appended, later, committed, course⟩
  · exact failed course
  · exact failed course
  · exact failed course
  · have stores := Setup.transaction_ok committed
    obtain ⟨now, _, recorded⟩ := stores.checkpoint
    have pending : ¬appended.checkpoint.status = .mined := by simp [recorded]
    have identities := (place_perm (·.leafIndex)
      ({ leafIndex := deployment.tables.identities.length, commitment } : Identity)
      deployment.tables.identities).length_eq
    have checkpoints := place_perm (·.identityCount) appended.checkpoint deployment.tables.checkpoints
    have mined := (checkpoints.filter fun checkpoint => checkpoint.status = .mined).length_eq
    rw [Deployment.append, course, stores.tables] at lawful ⊢
    refine ⟨lawful, ?_, ?_, ?_, ?_⟩
    · simp [Counters.afterAppend, identities, accounted.appended]
    · simp [Counters.afterAppend, identities, accounted.measured]
    · simp [checkpoints.length_eq, identities, accounted.checkpoints]
    · simp [Counters.afterAppend, Tables.withStatus, mined, pending, accounted.mined]

theorem append_refused (setup : Setup) (conditions : Conditions) (deployment : Deployment)
    (name : String) (commitment : Bytes) :
    let outcome := deployment.append setup conditions name commitment
    outcome.2.counters.refused =
      (Answered.refusedAppend? ⟨.append name commitment, outcome.1.map .checkpoint⟩).toList ++
        deployment.counters.refused := by
  intro outcome
  have counters : outcome.2.counters = deployment.counters.afterAppend outcome.1 := rfl
  rw [counters]
  cases outcome.1 with
  | ok checkpoint => rfl
  | error failure => cases failure <;> rfl

theorem appendAll_accounted (declared : setup.schema = .declared) (name : String)
    (commitments : List Bytes) (conditions : Conditions) (last : Option Checkpoint)
    (accounted : deployment.Accounted) :
    (appendAll setup name conditions last commitments deployment).2.Accounted := by
  induction commitments generalizing conditions last deployment with
  | nil => exact accounted
  | cons commitment rest inductionHypothesis =>
      have first := append_accounted declared conditions name commitment accounted
      rw [appendAll]
      split
      case h_1 failure next stopped =>
        rwa [stopped] at first
      case h_2 checkpoint next appended =>
        rw [appended] at first
        exact inductionHypothesis _ _ first

theorem appendAll_refused (setup : Setup) (name : String) (asked commitments : List Bytes)
    (conditions : Conditions) (last : Option Checkpoint) (answer : Option Checkpoint → Answer)
    (deployment : Deployment) :
    let outcome := appendAll setup name conditions last commitments deployment
    outcome.2.counters.refused =
      (Answered.refusedAppend? ⟨.appendAll name asked, outcome.1.map answer⟩).toList ++
        deployment.counters.refused := by
  induction commitments generalizing conditions last deployment with
  | nil => rfl
  | cons commitment rest inductionHypothesis =>
      have first := append_refused setup conditions deployment name commitment
      rw [appendAll]
      split
      case h_1 failure next stopped =>
        rw [stopped] at first
        cases failure <;> exact first
      case h_2 checkpoint next appended =>
        rw [appended] at first
        have kept : next.counters.refused = deployment.counters.refused := first
        rw [← kept]
        exact inductionHypothesis _ _ next

/-! ## Confirming -/

theorem confirm_accounted (declared : setup.schema = .declared) (conditions : Conditions) (root : Bytes)
    (minedAt : Timestamp) (accounted : deployment.Accounted) :
    (deployment.confirm setup conditions [] root minedAt).2.Accounted := by
  have lawful := Confirmation.confirm_lawful conditions [] root minedAt accounted.lawful
  rw [Deployment.confirm, declared]
  rcases Confirmation.confirm_counted_cases conditions root minedAt accounted.lawful with
    ⟨uncounted, untouched⟩ | ⟨counted, checkpoint, given, recorded, pending, confirmed⟩
  · simp only [uncounted, untouched, Counters.afterConfirmation, Bool.false_eq_true, if_false]
    exact accounted
  · rw [confirmed] at lawful
    have mined := Tables.length_withStatus_confirmed accounted.lawful recorded pending given
    simp only [counted, confirmed, Counters.afterConfirmation, if_true]
    refine ⟨lawful, accounted.appended, accounted.measured, ?_, ?_⟩
    · simp [Tables.replacing, accounted.checkpoints]
    · rw [mined, accounted.mined]

/-! ## Runs -/

theorem step_accounted (setup : Setup) (declared : setup.schema = .declared) (conditions : Conditions)
    (operation : Operation) (alone : operation.Alone) (accounted : deployment.Accounted) :
    (deployment.step setup conditions operation).2.Accounted := by
  cases operation with
  | append name commitment => exact append_accounted declared conditions name commitment accounted
  | appendAll name commitments =>
      exact appendAll_accounted declared name commitments conditions none accounted
  | confirm script root minedAt =>
      cases alone
      exact confirm_accounted declared conditions root minedAt accounted
  | _ => exact ⟨accounted.lawful, accounted.appended, accounted.measured, accounted.checkpoints,
      accounted.mined⟩

theorem step_refusedAppend (setup : Setup) (conditions : Conditions) (operation : Operation)
    (deployment : Deployment) :
    let outcome := deployment.step setup conditions operation
    outcome.2.counters.refused =
      (Answered.refusedAppend? ⟨operation, outcome.1⟩).toList ++ deployment.counters.refused := by
  cases operation with
  | append name commitment => exact append_refused setup conditions deployment name commitment
  | appendAll name commitments =>
      exact appendAll_refused setup name commitments commitments conditions none _ deployment
  | confirm script root minedAt =>
      intro outcome
      have counters : outcome.2.counters.refused = deployment.counters.refused := by
        simp only [outcome, step, Deployment.confirm, Counters.afterConfirmation]
        split <;> rfl
      exact counters
  | _ => rfl

theorem accounted_empty : ({} : Deployment).Accounted :=
  ⟨by decide, rfl, rfl, rfl, rfl⟩

theorem serve_accounted (calls : List Call) (alone : ∀ call ∈ calls, call.operation.Alone)
    (accounted : deployment.Accounted) : (deployment.serve calls).2.Accounted := by
  induction calls generalizing deployment with
  | nil => exact accounted
  | cons call rest inductionHypothesis =>
      have first := step_accounted call.setup rfl call.conditions call.operation
        (alone call (by simp)) accounted
      exact inductionHypothesis (fun later member => alone later (List.mem_cons_of_mem call member))
        first

theorem serve_refused (calls : List Call) (deployment : Deployment) :
    (deployment.serve calls).2.counters.refused =
      ((deployment.serve calls).1.filterMap (·.refusedAppend?)).reverse ++
        deployment.counters.refused := by
  induction calls generalizing deployment with
  | nil => rfl
  | cons call rest inductionHypothesis =>
      have first := step_refusedAppend call.setup call.conditions call.operation deployment
      have later := inductionHypothesis
        (deployment.step call.setup call.conditions call.operation).2
      rw [first] at later
      rw [serve]
      simp only [later, List.filterMap_cons]
      cases refused : Answered.refusedAppend?
          ⟨call.operation, (deployment.step call.setup call.conditions call.operation).1⟩ with
      | none => rfl
      | some category => simp

/-- After any calls the rows and the counters shown agree: identities, appends and latencies, checkpoints that
are mined and mined roots, and for every reason the appends that were refused for it.  An append that fails
without being refused raises no counter. -/
theorem counters_account_for_tables (calls : List Call)
    (alone : ∀ call ∈ calls, call.operation.Alone) :
    let served := ({} : Deployment).serve calls
    let deployment := served.2
    let shown := deployment.counters.shown
    let tables := deployment.tables
    shown "rootledger_identities_appended_total" [] = tables.identities.length ∧
      shown "rootledger_append_seconds_count" [] = tables.identities.length ∧
      tables.checkpoints.length = tables.identities.length ∧
      shown "rootledger_roots_mined_total" [] = (tables.withStatus .mined).length ∧
      (∀ reason, shown "rootledger_append_failures_total" [("reason", reason)] =
        (served.1.filterMap (·.refusedAppend?)).countP fun category => category.code = reason) ∧
      ∀ (setup : Setup) (conditions : Conditions) (name : String) (commitment : Bytes) (failure : Failure),
        (deployment.append setup conditions name commitment).1 = .error failure →
          (∀ refusal, failure ≠ .refused refusal) →
            (deployment.append setup conditions name commitment).2.counters = deployment.counters := by
  intro served deployment shown tables
  have accounted : deployment.Accounted := serve_accounted calls alone accounted_empty
  refine ⟨?_, ?_, accounted.checkpoints, ?_, ?_, ?_⟩
  · rw [← accounted.appended]
    exact Counters.shown_plain (by simp)
  · rw [← accounted.measured]
    exact Counters.shown_plain (by simp)
  · rw [← accounted.mined]
    exact Counters.shown_plain (by simp)
  · intro reason
    have refused : deployment.counters.refused = _ := serve_refused calls {}
    simp only [shown, Counters.shown_failures, refused, List.append_nil, List.countP_reverse, served]
  · intro setup conditions name commitment failure failed unrefused
    have counters : (deployment.append setup conditions name commitment).2.counters =
        deployment.counters.afterAppend (deployment.append setup conditions name commitment).1 := rfl
    rw [counters, failed]
    cases failure with
    | refused refusal => exact absurd rfl (unrefused refusal)
    | _ => rfl

/-- A commit fails, the hasher crashes, a root is confirmed twice, and the last append finds the tree full. -/
def troubled : List Call :=
  let call (faults : List Fault) (operation : Operation) : Call :=
    { shape := Appender.twoLeaves.shape, timeout := .ofInt 10, conditions := { faults }, operation }
  let publication : Timestamp := .ofCivil { year := 2026, month := 3, day := 1 }
  [call [] (.append "first" [1]), call [.commit] (.append "second" [2]),
   call [.hasherCrash] (.append "second" [2]), call [] (.append "second" [2]),
   call [] (.confirm [] [1, 0] publication), call [] (.confirm [] [1, 0] publication),
   call [] (.appendAll "first" [[3], [4]])]

theorem counters_account_for_tables_troubled :
    let shown := (({} : Deployment).serve troubled).2.counters.shown
    shown "rootledger_identities_appended_total" [] = 2 ∧
      shown "rootledger_roots_mined_total" [] = 1 ∧
      shown "rootledger_append_failures_total" [("reason", "storage_error")] = 1 ∧
      shown "rootledger_append_failures_total" [("reason", "tree_full")] = 1 := by
  obtain ⟨appended, _, _, mined, failures, _⟩ := counters_account_for_tables troubled (by decide)
  refine ⟨appended.trans ?_, mined.trans ?_, (failures _).trans ?_, (failures _).trans ?_⟩
  all_goals decide +kernel

end Deployment

end CommitmentLog
