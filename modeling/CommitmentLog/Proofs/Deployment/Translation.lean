import CommitmentLog.Proofs.Appender.Statements
import CommitmentLog.Proofs.Confirmation.Settle
import CommitmentLog.Proofs.Deployment.Run

/-!
# Errors of the database

What a caller learns when the database reports an error at one of the statements of an operation.  Appends,
recoveries, audits and confirmations tell that the storage has failed, so that the whole operation may be
tried again, and leave the tables and all appenders as they were.  An inclusion proof leaves them as they were
too, but passes the error of the database on as it is.
-/

set_option autoImplicit false

namespace CommitmentLog

open Store

/-! ## Appenders -/

namespace Appender

def appendStatements (setup : Setup) (conditions : Conditions) (clock : Binary) (tables : Tables)
    (appender : Appender) (commitment : Bytes) : List Fault :=
  following (appender.enter setup) fun _ =>
    following appender.running fun _ =>
      setup.transactionStatements conditions clock tables appender.tree commitment

def recoverStatements (setup : Setup) (appender : Appender) : List Fault :=
  following (appender.enter setup) fun _ => following appender.running fun _ => [.leaves]

def auditStatements (setup : Setup) (appender : Appender) : List Fault :=
  following (appender.enter setup) fun _ => [.leaves]

/-- A failure that the caller learns of as one of the storage does not stop the appender. -/
theorem afterFailure_of_storageFailed {failure : Failure}
    (told : retriable failure = .refused .storageFailed) (appender : Appender) :
    appender.afterFailure failure = appender := by
  rcases afterFailure_cases appender failure with ⟨refusal, other, violation, _⟩ | ⟨_, same⟩
  · rw [told] at other
    cases other
    cases violation
  · exact same

variable {conditions : Conditions} (faultless : conditions.faults = []) {fault : Fault}
  (ofDatabase : fault.OfDatabase)

include faultless ofDatabase

theorem append_of_struck (setup : Setup) (clock : Binary) (tables : Tables) (appender : Appender)
    (commitment : Bytes)
    (struck : fault ∈ appender.appendStatements setup conditions clock tables commitment) :
    let outcome := appender.append setup (conditions.struckBy fault) clock tables commitment
    outcome.result = .error (.refused .storageFailed) ∧ outcome.appender = appender ∧
      outcome.tables = tables := by
  intro outcome
  unfold appendStatements at struck
  cases entered : appender.enter setup with
  | error failure => simp [entered, following] at struck
  | ok =>
      cases runs : appender.running with
      | error failure => simp [entered, runs, following] at struck
      | ok =>
          simp only [entered, runs, following] at struck
          obtain ⟨failure, failed, told⟩ := (setup.transaction_executes faultless clock tables
            appender.tree commitment).fails ofDatabase struck
          rcases carried : setup.transaction (conditions.struckBy fault) clock tables appender.tree
            commitment with ⟨result, later⟩
          rw [carried] at failed
          cases failed
          simp [outcome, append_eq, entered, runs, carried, told, afterFailure_of_storageFailed told]

theorem append_of_spared (setup : Setup) (clock : Binary) (tables : Tables) (appender : Appender)
    (commitment : Bytes)
    (spared : fault ∉ appender.appendStatements setup conditions clock tables commitment) :
    appender.append setup (conditions.struckBy fault) clock tables commitment =
      appender.append setup conditions clock tables commitment := by
  unfold appendStatements at spared
  rw [append_eq, append_eq]
  cases entered : appender.enter setup with
  | error failure => rfl
  | ok =>
      cases runs : appender.running with
      | error failure => rfl
      | ok =>
          simp only [entered, runs, following] at spared
          simp only [setup.transaction_of_spared faultless clock tables appender.tree commitment
            ofDatabase spared]

theorem recover_of_struck (setup : Setup) (tables : Tables) (appender : Appender)
    (struck : fault ∈ appender.recoverStatements setup) :
    appender.recover setup (conditions.struckBy fault) tables =
      (.error (.refused .storageFailed), appender) := by
  unfold recoverStatements at struck
  cases entered : appender.enter setup with
  | error failure => simp [entered, following] at struck
  | ok =>
      cases runs : appender.running with
      | error failure => simp [entered, runs, following] at struck
      | ok =>
          simp only [entered, runs, following] at struck
          obtain ⟨failure, failed, told⟩ :=
            (setup.loadTree_executes faultless tables).fails ofDatabase struck
          simp [recover_eq, entered, runs, failed, told, afterFailure_of_storageFailed told]

theorem recover_of_spared (setup : Setup) (tables : Tables) (appender : Appender)
    (spared : fault ∉ appender.recoverStatements setup) :
    appender.recover setup (conditions.struckBy fault) tables =
      appender.recover setup conditions tables := by
  unfold recoverStatements at spared
  rw [recover_eq, recover_eq]
  cases entered : appender.enter setup with
  | error failure => rfl
  | ok =>
      cases runs : appender.running with
      | error failure => rfl
      | ok =>
          simp only [entered, runs, following] at spared
          simp only [(setup.loadTree_executes faultless tables).same ofDatabase spared]

theorem audit_of_struck (setup : Setup) (tables : Tables) (appender : Appender)
    (struck : fault ∈ appender.auditStatements setup) :
    appender.audit setup (conditions.struckBy fault) tables =
      (.error (.refused .storageFailed), appender) := by
  unfold auditStatements at struck
  cases entered : appender.enter setup with
  | error failure => simp [entered, following] at struck
  | ok =>
      simp only [entered, following] at struck
      obtain ⟨failure, failed, told⟩ :=
        (setup.auditOver_executes faultless tables).fails ofDatabase struck
      simp [audit_eq, entered, failed, told, afterFailure_of_storageFailed told]

theorem audit_of_spared (setup : Setup) (tables : Tables) (appender : Appender)
    (spared : fault ∉ appender.auditStatements setup) :
    appender.audit setup (conditions.struckBy fault) tables =
      appender.audit setup conditions tables := by
  unfold auditStatements at spared
  rw [audit_eq, audit_eq]
  cases entered : appender.enter setup with
  | error failure => rfl
  | ok =>
      simp only [entered, following] at spared
      simp only [(setup.auditOver_executes faultless tables).same ofDatabase spared]

end Appender

/-! ## Inclusion proofs and confirmations -/

namespace Setup

def inclusionStatements (tables : Tables) (commitment : Bytes) : List Fault :=
  following (Ledger.find tables commitment) fun _ =>
    following (Checkpoints.latest tables) fun _ => [.leaves]

variable {conditions : Conditions} {fault : Fault}

theorem inclusionProof_of_struck (conditions : Conditions) (setup : Setup) (tables : Tables)
    (commitment : Bytes)
    (struck : fault ∈ inclusionStatements tables commitment) :
    setup.inclusionProof (conditions.struckBy fault) tables commitment =
      .error (.database .operational) := by
  unfold inclusionStatements at struck
  cases found : Ledger.find tables commitment with
  | error failure => simp [found, following] at struck
  | ok index =>
      cases recorded : Checkpoints.latest tables with
      | error failure => simp [found, recorded, following] at struck
      | ok latest =>
          simp only [found, recorded, following, List.mem_singleton] at struck
          have fails := (Conditions.strikes_struckBy conditions fault .leaves).mpr struck
          simp [inclusionProof, inclusionProofOver, found, recorded, Ledger.leaves, fails, bind,
            Except.bind]

theorem inclusionProof_of_spared (faultless : conditions.faults = []) (ofDatabase : fault.OfDatabase)
    (setup : Setup) (tables : Tables) (commitment : Bytes)
    (spared : fault ∉ inclusionStatements tables commitment) :
    setup.inclusionProof (conditions.struckBy fault) tables commitment =
      setup.inclusionProof conditions tables commitment := by
  unfold inclusionStatements at spared
  rw [inclusionProof, inclusionProof, inclusionProofOver, inclusionProofOver]
  cases found : Ledger.find tables commitment with
  | error failure => rfl
  | ok index =>
      cases recorded : Checkpoints.latest tables with
      | error failure => rfl
      | ok latest =>
          simp only [found, recorded, following] at spared
          simp only [(Ledger.leaves_executes faultless tables).same ofDatabase spared]

end Setup

namespace Confirmation

def updateStatements (root : Bytes) (minedAt : Timestamp) (tables : Tables) : List Fault :=
  following (Checkpoints.universal minedAt) fun given =>
    following (examine tables root .mined (some given)) fun (_, due) => if due then [.update] else []

def confirmStatements (schema : Schema) (conditions : Conditions) (script : List Interruption)
    (root : Bytes) (minedAt : Timestamp) (tables : Tables) : List Fault :=
  updateStatements root minedAt tables ++
    following (applyStatus schema conditions script root .mined (some minedAt) tables).1 fun _ =>
      [.commit]

variable {schema : Schema} {conditions : Conditions} {fault : Fault}

theorem mem_updateStatements {root : Bytes} {minedAt : Timestamp} {tables : Tables} :
    fault ∈ updateStatements root minedAt tables ↔
      fault = .update ∧ ∃ given checkpoint, Checkpoints.universal minedAt = .ok given ∧
        examine tables root .mined (some given) = .ok (checkpoint, true) := by
  unfold updateStatements
  cases converted : Checkpoints.universal minedAt with
  | error failure => simp [following]
  | ok given =>
      cases examined : examine tables root .mined (some given) with
      | error failure => simp [following, examined]
      | ok outcome =>
          obtain ⟨checkpoint, due⟩ := outcome
          cases due <;> simp [following, examined]

theorem passes_congr {other : Conditions} (same : other.strikes .update = conditions.strikes .update)
    (root : Bytes) (next : Status) (given : Option Civil) (remaining : Nat) (before : Interference)
    (script : List Interruption) (tables : Tables) :
    passes schema other root next given remaining before script tables =
      passes schema conditions root next given remaining before script tables := by
  induction remaining generalizing before script tables with
  | zero => rfl
  | succ remaining inductionHypothesis => simp only [passes, same, inductionHypothesis]

theorem passes_of_update (schema : Schema) {root : Bytes} {given : Civil} {checkpoint : Checkpoint}
    {tables : Tables} (fails : conditions.strikes .update = true)
    (due : examine tables root .mined (some given) = .ok (checkpoint, true))
    (remaining : Nat) (script : List Interruption) :
    (passes schema conditions root .mined (some given) (remaining + 1) .nothing script tables).1 =
      .error (.refused .storageFailed) := by
  simp [passes, Interference.apply, due, fails]

theorem passes_of_not_due {other : Conditions} {root : Bytes} {given : Civil} {tables : Tables}
    (notDue : ∀ checkpoint, examine tables root .mined (some given) ≠ .ok (checkpoint, true))
    (remaining : Nat) (script : List Interruption) :
    passes schema other root .mined (some given) (remaining + 1) .nothing script tables =
      passes schema conditions root .mined (some given) (remaining + 1) .nothing script tables := by
  simp only [passes, Interference.apply]
  cases examined : examine tables root .mined (some given) with
  | error failure => rfl
  | ok outcome =>
      obtain ⟨checkpoint, due⟩ := outcome
      cases due with
      | false => rfl
      | true => exact absurd examined (notDue checkpoint)

theorem applyStatus_of_spared (faultless : conditions.faults = []) (schema : Schema)
    (script : List Interruption) (root : Bytes) (minedAt : Timestamp) (tables : Tables)
    (spared : fault ∉ updateStatements root minedAt tables) :
    applyStatus schema (conditions.struckBy fault) script root .mined (some minedAt) tables =
      applyStatus schema conditions script root .mined (some minedAt) tables := by
  cases converted : Checkpoints.universal minedAt with
  | error failure =>
      rw [applyStatus_of_not_universal _ _ _ _ converted, applyStatus_of_not_universal _ _ _ _ converted]
  | ok given =>
      rw [applyStatus_of_universal _ _ _ _ converted, applyStatus_of_universal _ _ _ _ converted]
      by_cases update : fault = .update
      · apply passes_of_not_due
        intro checkpoint due
        exact spared (mem_updateStatements.mpr ⟨update, given, checkpoint, converted, due⟩)
      · apply passes_congr
        rw [Conditions.strikes_struckBy_of_ne conditions update,
          Conditions.strikes_of_faultless faultless]

theorem confirm_of_struck (faultless : conditions.faults = []) (schema : Schema)
    (script : List Interruption) (root : Bytes) (minedAt : Timestamp) (tables : Tables)
    (struck : fault ∈ confirmStatements schema conditions script root minedAt tables) :
    let confirmed := confirm schema (conditions.struckBy fault) script root minedAt tables
    confirmed.result = .error (.refused .storageFailed) ∧ confirmed.tables = tables := by
  intro confirmed
  by_cases updating : fault ∈ updateStatements root minedAt tables
  · obtain ⟨update, given, checkpoint, converted, due⟩ := mem_updateStatements.mp updating
    have applied := applyStatus_of_universal schema (conditions.struckBy fault) script root converted
      tables
    have fails := passes_of_update schema
      ((Conditions.strikes_struckBy conditions fault .update).mpr update) due 1 script
    rw [← applied] at fails
    rcases course : applyStatus schema (conditions.struckBy fault) script root .mined (some minedAt)
      tables with ⟨result, after⟩
    rw [course] at fails
    cases fails
    simp [confirmed, confirm, course]
  · have applied := applyStatus_of_spared faultless schema script root minedAt tables updating
    have behind := (List.mem_append.mp struck).resolve_left updating
    rcases course : applyStatus schema conditions script root .mined (some minedAt) tables with
      ⟨result, after⟩
    rw [course] at behind applied
    cases result with
    | error failure => simp [following] at behind
    | ok outcome =>
        simp only [following, List.mem_singleton] at behind
        have fails := (Conditions.strikes_struckBy conditions fault .commit).mpr behind
        simp [confirmed, confirm, applied, fails]

theorem confirm_of_spared (faultless : conditions.faults = []) (schema : Schema)
    (script : List Interruption) (root : Bytes) (minedAt : Timestamp) (tables : Tables)
    (spared : fault ∉ confirmStatements schema conditions script root minedAt tables) :
    confirm schema (conditions.struckBy fault) script root minedAt tables =
      confirm schema conditions script root minedAt tables := by
  have applied := applyStatus_of_spared faultless schema script root minedAt tables
    fun struck => spared (List.mem_append_left _ struck)
  rw [confirm, confirm, applied]
  rcases course : applyStatus schema conditions script root .mined (some minedAt) tables with
    ⟨result, after⟩
  cases result with
  | error failure => rfl
  | ok outcome =>
      have notCommit : fault ≠ .commit := by
        intro commit
        apply spared
        apply List.mem_append_right
        rw [course]
        exact List.mem_singleton.mpr commit
      simp only [Conditions.strikes_struckBy_of_ne conditions notCommit,
        Conditions.strikes_of_faultless faultless]

end Confirmation

/-! ## Operations -/

/-- The operations that read or write the store in transactions of their own, one for each. -/
def Operation.Transacts : Operation → Prop
  | .append _ _ | .recover _ | .audit _ | .inclusionProof _ _ | .confirm _ _ _ => True
  | _ => False

def Operation.told : Operation → Failure
  | .inclusionProof _ _ => .database .operational
  | _ => .refused .storageFailed

namespace Deployment

def statements (setup : Setup) (conditions : Conditions) (deployment : Deployment) :
    Operation → List Fault
  | .append name commitment =>
      (deployment.appender name).appendStatements setup conditions deployment.clock deployment.tables
        commitment
  | .recover name => (deployment.appender name).recoverStatements setup
  | .audit name => (deployment.appender name).auditStatements setup
  | .inclusionProof _ commitment => Setup.inclusionStatements deployment.tables commitment
  | .confirm script root minedAt =>
      Confirmation.confirmStatements setup.schema conditions script root minedAt deployment.tables
  | _ => []

theorem setAppender_unchanged (deployment : Deployment) (name other : String) :
    (deployment.setAppender name (deployment.appender name)).appender other =
      deployment.appender other := by
  rw [appender_setAppender]
  split
  case isTrue same => rw [same]
  case isFalse => rfl

/-- An error of the database at any one statement of an operation, and at none else, makes it fail without a
trace: nothing is stored, and no appender stops or forgets its tree.  The caller learns that the storage has
failed, unless the operation was to prove an inclusion. -/
theorem database_error_leaves_no_trace (setup : Setup) (conditions : Conditions)
    (faultless : conditions.faults = []) (fault : Fault) (ofDatabase : fault.OfDatabase)
    (operation : Operation) (transacts : operation.Transacts) (deployment : Deployment) :
    let attempt := deployment.step setup (conditions.struckBy fault) operation
    if fault ∈ deployment.statements setup conditions operation then
      attempt.1 = .error operation.told ∧ attempt.2.tables = deployment.tables ∧
        ∀ name, attempt.2.appender name = deployment.appender name
    else attempt = deployment.step setup conditions operation := by
  intro attempt
  split
  case isTrue struck =>
    cases operation with
    | append name commitment =>
        obtain ⟨refused, kept, same⟩ := Appender.append_of_struck faultless ofDatabase setup
          deployment.clock deployment.tables (deployment.appender name) commitment struck
        refine ⟨?_, same, ?_⟩
        · simp only [attempt, step, append, refused]
          rfl
        · intro other
          simp only [attempt, step, append, kept]
          exact setAppender_unchanged deployment name other
    | recover name =>
        have course := Appender.recover_of_struck faultless ofDatabase setup deployment.tables
          (deployment.appender name) struck
        simp only [attempt, step, onAppender, course]
        exact ⟨rfl, rfl, setAppender_unchanged deployment name⟩
    | audit name =>
        have course := Appender.audit_of_struck faultless ofDatabase setup deployment.tables
          (deployment.appender name) struck
        simp only [attempt, step, onAppender, course]
        exact ⟨rfl, rfl, setAppender_unchanged deployment name⟩
    | inclusionProof name commitment =>
        have course := Setup.inclusionProof_of_struck conditions setup deployment.tables commitment struck
        exact ⟨congrArg (Except.map Answer.inclusion) course, rfl, fun _ => rfl⟩
    | confirm script root minedAt =>
        obtain ⟨refused, same⟩ := Confirmation.confirm_of_struck faultless setup.schema script root
          minedAt deployment.tables struck
        refine ⟨?_, same, fun _ => rfl⟩
        simp only [attempt, step, confirm, refused]
        rfl
    | _ => cases transacts
  case isFalse spared =>
    cases operation with
    | append name commitment =>
        have course := Appender.append_of_spared faultless ofDatabase setup deployment.clock
          deployment.tables (deployment.appender name) commitment spared
        simp only [attempt, step, append, course]
    | recover name =>
        have course := Appender.recover_of_spared faultless ofDatabase setup deployment.tables
          (deployment.appender name) spared
        simp only [attempt, step, onAppender, course]
    | audit name =>
        have course := Appender.audit_of_spared faultless ofDatabase setup deployment.tables
          (deployment.appender name) spared
        simp only [attempt, step, onAppender, course]
    | inclusionProof name commitment =>
        have course := Setup.inclusionProof_of_spared faultless ofDatabase setup deployment.tables
          commitment spared
        simp only [attempt, step, course]
    | confirm script root minedAt =>
        have course := Confirmation.confirm_of_spared faultless setup.schema script root minedAt
          deployment.tables spared
        simp only [attempt, step, confirm, course]
    | _ => cases transacts

/-- The commit of an append to an empty store fails, and the caller learns that it is the storage. -/
theorem database_error_leaves_no_trace_commit :
    let attempt := ({} : Deployment).step Appender.twoLeaves (({} : Conditions).struckBy .commit)
      (.append "first" [1])
    attempt.1 = .error (.refused .storageFailed) ∧ attempt.2.tables = {} ∧
      (attempt.2.appender "first").halted = none := by
  have attempted := database_error_leaves_no_trace Appender.twoLeaves {} rfl .commit trivial
    (.append "first" [1]) trivial {}
  rw [if_pos (by decide +kernel)] at attempted
  obtain ⟨told, same, kept⟩ := attempted
  exact ⟨told, same, congrArg Appender.halted (kept "first")⟩

/-- Where the leaves cannot be read, an inclusion proof of a commitment that is stored ends with the error of
the database itself. -/
theorem inclusionProof_passes_error_on :
    let deployment : Deployment := { tables := Appender.twoAppended }
    let operation : Operation := .inclusionProof "first" [1]
    Fault.leaves ∈ deployment.statements Appender.twoLeaves {} operation ∧
      (deployment.step Appender.twoLeaves (({} : Conditions).struckBy .leaves) operation).1 =
        .error (.database .operational) := by
  decide +kernel

end Deployment

end CommitmentLog
