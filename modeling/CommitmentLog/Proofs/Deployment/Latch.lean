import CommitmentLog.Proofs.Appender.Halt
import CommitmentLog.Proofs.Deployment.Lawful
import CommitmentLog.Proofs.Deployment.Run

/-!
# The latch

Operations follow one another with faults of any kind, and between them somebody may give the tables any
other content that keeps the rules of the schema.  An appender stops in those steps only in which one of its
own checks tells the caller of a violation, and only a reset that goes through sets it working again.  While
it stands still it keeps no tree and refuses to build on the store.  Since the reset drops the tree as well,
the first success afterwards takes a store that is recoverable at that time.
-/

set_option autoImplicit false

namespace CommitmentLog

open Store

/-! ## Operations and appenders -/

namespace Operation

/-- The appender that an operation works through. -/
def subject? : Operation → Option String
  | .append name _ | .appendAll name _ | .recover name | .audit name | .resetHalt name | .hold name
  | .release name | .restart name => some name
  | .inclusionProof _ _ | .confirm _ _ _ | .withStatus _ => none

/-- The operations that stop an appender when they find the store violated. -/
def Checks (name : String) : Operation → Prop
  | .append other _ | .appendAll other _ | .recover other | .audit other => other = name
  | _ => False

def Builds (name : String) : Operation → Prop
  | .append other _ | .recover other => other = name
  | .appendAll other commitments => other = name ∧ commitments ≠ []
  | _ => False

def Unlatched (name : String) : Operation → Prop
  | .audit other => other = name
  | .confirm _ _ _ => True
  | _ => False

end Operation

namespace Deployment

variable {setup : Setup} {conditions : Conditions} {deployment : Deployment} {name : String}
  {reason : String}

theorem appender_setAppender_of_ne {other : String} (apart : other ≠ name) (appender : Appender) :
    (deployment.setAppender name appender).appender other = deployment.appender other :=
  (appender_setAppender name other appender).trans (if_neg apart)

theorem appendAll_appender_of_ne {other : String} (apart : other ≠ name) (commitments : List Bytes)
    (conditions : Conditions) (last : Option Checkpoint) (deployment : Deployment) :
    (appendAll setup name conditions last commitments deployment).2.appender other =
      deployment.appender other := by
  induction commitments generalizing conditions last deployment with
  | nil => rfl
  | cons commitment rest inductionHypothesis =>
      have first : (deployment.append setup conditions name commitment).2.appender other =
          deployment.appender other := appender_setAppender_of_ne apart _
      rw [appendAll]
      split
      case h_1 failure next stopped =>
        rwa [stopped] at first
      case h_2 checkpoint next appended =>
        rw [appended] at first
        rw [inductionHypothesis, first]

theorem step_appender_of_subject_ne (setup : Setup) (conditions : Conditions)
    (operation : Operation) (deployment : Deployment) (apart : operation.subject? ≠ some name) :
    (deployment.step setup conditions operation).2.appender name = deployment.appender name := by
  cases operation with
  | appendAll other commitments =>
      exact appendAll_appender_of_ne (fun same => apart (congrArg some same.symm)) commitments
        conditions none deployment
  | inclusionProof other commitment => rfl
  | confirm script root minedAt => rfl
  | withStatus status => rfl
  | append other commitment =>
      exact appender_setAppender_of_ne (fun same => apart (congrArg some same.symm)) _
  | _ other => exact appender_setAppender_of_ne (fun same => apart (congrArg some same.symm)) _

theorem subject_of_checks {operation : Operation} (checks : operation.Checks name) :
    operation.subject? = some name := by
  cases operation with
  | append | appendAll | recover | audit => exact congrArg some checks
  | _ => cases checks

/-! ## Into the halt -/

theorem append_halted_iff (setup : Setup) (conditions : Conditions) (commitment : Bytes)
    (runs : (deployment.appender name).halted = none) (reason : String) :
    ((deployment.append setup conditions name commitment).2.appender name).halted = some reason ↔
      TellsViolation (deployment.append setup conditions name commitment).1 reason := by
  rw [appender_append]
  exact Appender.append_halted_iff setup conditions deployment.clock deployment.tables commitment runs
    reason

theorem appendAll_halted_iff (setup : Setup) (commitments : List Bytes) (conditions : Conditions)
    (last : Option Checkpoint) (runs : (deployment.appender name).halted = none) (reason : String) :
    ((appendAll setup name conditions last commitments deployment).2.appender name).halted =
        some reason ↔
      TellsViolation (appendAll setup name conditions last commitments deployment).1 reason := by
  induction commitments generalizing conditions last deployment with
  | nil => simp only [appendAll, runs, not_tellsViolation_ok, reduceCtorEq]
  | cons commitment rest inductionHypothesis =>
      have first := append_halted_iff setup conditions commitment runs
      rw [appendAll]
      split
      case h_1 failure next stopped =>
        rw [stopped] at first
        have told := first reason
        simp only [TellsViolation, Except.error.injEq] at told ⊢
        exact told
      case h_2 checkpoint next appended =>
        rw [appended] at first
        -- A success tells of no violation, so the next append meets an appender that works.
        have stillRuns : (next.appender name).halted = none := by
          rw [Option.eq_none_iff_forall_ne_some]
          intro other stopped
          exact not_tellsViolation_ok checkpoint other ((first other).mp stopped)
        exact inductionHypothesis _ _ stillRuns

/-- An appender that works stops in the steps in which one of its checks tells of a violation, and in no
others. -/
theorem step_halted_iff (setup : Setup) (conditions : Conditions) (operation : Operation)
    (runs : (deployment.appender name).halted = none) (reason : String) :
    ((deployment.step setup conditions operation).2.appender name).halted = some reason ↔
      operation.Checks name ∧ TellsViolation (deployment.step setup conditions operation).1 reason := by
  by_cases subject : operation.subject? = some name
  · cases operation with
    | inclusionProof | confirm | withStatus => cases subject
    | append _ commitment =>
        cases subject
        have stops := append_halted_iff setup conditions commitment runs reason
        simpa only [step, Operation.Checks, true_and, tellsViolation_map] using stops
    | appendAll _ commitments =>
        cases subject
        have stops := appendAll_halted_iff setup commitments conditions none runs reason
        simpa only [step, Operation.Checks, true_and, tellsViolation_map] using stops
    | recover _ =>
        cases subject
        have stops := Appender.recover_halted_iff setup conditions deployment.tables runs reason
        simpa only [step, onAppender, appender_setAppender_self, Operation.Checks, true_and,
          tellsViolation_map] using stops
    | audit _ =>
        cases subject
        have stops := Appender.audit_halted_iff setup conditions deployment.tables runs reason
        simpa only [step, onAppender, appender_setAppender_self, Operation.Checks, true_and,
          tellsViolation_map] using stops
    | resetHalt _ =>
        cases subject
        have goesOn : ((deployment.appender name).resetHalt setup).2.halted = none := by
          rcases Appender.resetHalt_cases setup (deployment.appender name) with
            ⟨failure, course⟩ | course
          · rwa [course]
          · rw [course]
        simp [step, onAppender, appender_setAppender_self, goesOn, Operation.Checks]
    | hold _ =>
        cases subject
        simp [step, onAppender, appender_setAppender_self, Appender.hold, runs, Operation.Checks]
    | release _ =>
        cases subject
        have goesOn := (Appender.release_keeps (deployment.appender name)).1
        simp [step, onAppender, appender_setAppender_self, goesOn, runs, Operation.Checks]
    | restart _ =>
        cases subject
        simp [step, appender_setAppender_self, Operation.Checks]
  · have unchecked : ¬operation.Checks name := fun checks => subject (subject_of_checks checks)
    rw [step_appender_of_subject_ne setup conditions operation deployment subject, runs]
    simp only [unchecked, false_and, reduceCtorEq]

/-! ## In the halt -/

theorem append_stands (setup : Setup) (conditions : Conditions) (commitment : Bytes)
    (stopped : (deployment.appender name).halted = some reason) :
    let attempt := deployment.append setup conditions name commitment
    (∃ failure, attempt.1 = .error failure) ∧ attempt.2.appender name = deployment.appender name ∧
      attempt.2.tables = deployment.tables := by
  have stands := Appender.append_stands setup conditions deployment.clock deployment.tables commitment
    stopped
  exact ⟨stands.1, (appender_append _ _ _ _ _).trans stands.2.1, stands.2.2⟩

theorem appendAll_stands (setup : Setup) (conditions : Conditions) (last : Option Checkpoint)
    (commitments : List Bytes) (stopped : (deployment.appender name).halted = some reason) :
    let attempt := appendAll setup name conditions last commitments deployment
    attempt.2.appender name = deployment.appender name ∧ attempt.2.tables = deployment.tables := by
  cases commitments with
  | nil => exact ⟨rfl, rfl⟩
  | cons commitment rest =>
      obtain ⟨⟨failure, failed⟩, kept, same⟩ :=
        append_stands setup conditions commitment stopped
      intro attempt
      rcases first : deployment.append setup conditions name commitment with ⟨result, next⟩
      rw [first] at failed kept same
      cases failed
      simp only [attempt, appendAll, first]
      exact ⟨kept, same⟩

/-- A stopped appender works again only after a reset that went through, or in the place of the old one. -/
theorem step_released_iff (setup : Setup) (conditions : Conditions) (operation : Operation)
    (stopped : (deployment.appender name).halted = some reason) :
    ((deployment.step setup conditions operation).2.appender name).halted = none ↔
      (operation = .resetHalt name ∧
          (deployment.step setup conditions operation).1 = .ok .nothing) ∨
        operation = .restart name := by
  by_cases subject : operation.subject? = some name
  · cases operation with
    | inclusionProof | confirm | withStatus => cases subject
    | append _ commitment =>
        cases subject
        have stands := (append_stands setup conditions commitment stopped).2.1
        simp [step, stands, stopped]
    | appendAll _ commitments =>
        cases subject
        have stands := (appendAll_stands setup conditions none commitments stopped).1
        simp [step, stands, stopped]
    | recover _ =>
        cases subject
        have stands := Appender.recover_stands setup conditions deployment.tables stopped
        simp [step, onAppender, appender_setAppender_self, stands, stopped]
    | audit _ =>
        cases subject
        have stands := Appender.audit_stands setup conditions deployment.tables
          (Option.isSome_iff_exists.mpr ⟨reason, stopped⟩)
        rw [Option.isSome_iff_ne_none] at stands
        simp [step, onAppender, appender_setAppender_self, stands]
    | resetHalt _ =>
        cases subject
        rcases Appender.resetHalt_cases setup (deployment.appender name) with
          ⟨failure, course⟩ | course
        · simp [step, onAppender, appender_setAppender_self, course, stopped, Except.map]
        · simp [step, onAppender, appender_setAppender_self, course, Except.map]
    | hold _ =>
        cases subject
        simp [step, onAppender, appender_setAppender_self, Appender.hold, stopped]
    | release _ =>
        cases subject
        have stands := (Appender.release_keeps (deployment.appender name)).1
        simp [step, onAppender, appender_setAppender_self, stands, stopped]
    | restart _ =>
        cases subject
        simp [step, appender_setAppender_self]
  · rw [step_appender_of_subject_ne setup conditions operation deployment subject, stopped]
    constructor
    · intro works
      cases works
    · rintro (⟨rfl, _⟩ | rfl)
      · exact absurd rfl subject
      · exact absurd rfl subject

theorem step_refused (setup : Setup) (conditions : Conditions) (operation : Operation)
    (builds : operation.Builds name) (free : (deployment.appender name).enter setup = .ok ())
    (stopped : (deployment.appender name).halted = some reason) :
    let attempt := deployment.step setup conditions operation
    attempt.1 = .error (.refused (.halted reason)) ∧ attempt.2.tables = deployment.tables ∧
      attempt.2.appender name = deployment.appender name := by
  have refused (commitment : Bytes) :
      (deployment.append setup conditions name commitment).1 =
        .error (.refused (.halted reason)) :=
    congrArg Appender.Outcome.result (Appender.append_of_halted free stopped commitment)
  intro attempt
  cases operation with
  | append other commitment =>
      cases builds
      obtain ⟨_, kept, same⟩ := append_stands setup conditions commitment stopped
      exact ⟨congrArg (Except.map Answer.checkpoint) (refused commitment), same, kept⟩
  | appendAll other commitments =>
      obtain ⟨rfl, some⟩ := builds
      obtain ⟨kept, same⟩ := appendAll_stands setup conditions none commitments stopped
      refine ⟨?_, same, kept⟩
      cases commitments with
      | nil => exact absurd rfl some
      | cons commitment rest =>
          have told := refused commitment
          rcases first : deployment.append setup conditions other commitment with ⟨result, next⟩
          rw [first] at told
          cases told
          simp [attempt, step, appendAll, first, Except.map]
  | recover other =>
      cases builds
      have course := Appender.recover_of_halted setup conditions deployment.tables free stopped
      simp [attempt, step, onAppender, appender_setAppender_self, course, Except.map]
      rfl
  | _ => cases builds

theorem step_of_cleared (setup : Setup) (conditions : Conditions) (operation : Operation)
    (unlatched : operation.Unlatched name) (deployment : Deployment) :
    let cleared :=
      deployment.setAppender name { deployment.appender name with halted := none }
    (cleared.step setup conditions operation).1 = (deployment.step setup conditions operation).1 ∧
      (cleared.step setup conditions operation).2.tables =
        (deployment.step setup conditions operation).2.tables := by
  intro cleared
  cases operation with
  | audit other =>
      cases unlatched
      have same := Appender.audit_of_cleared setup conditions deployment.tables
        (deployment.appender name)
      refine ⟨?_, rfl⟩
      simp only [step, onAppender, cleared, appender_setAppender_self]
      exact congrArg _ same
  | confirm script root minedAt => exact ⟨rfl, rfl⟩
  | _ => cases unlatched

/-! ## The tree of a stopped appender -/

theorem appendAll_latched (setup : Setup) (commitments : List Bytes) (conditions : Conditions)
    (last : Option Checkpoint) (latched : (deployment.appender name).Latched) :
    ((appendAll setup name conditions last commitments deployment).2.appender name).Latched := by
  induction commitments generalizing conditions last deployment with
  | nil => exact latched
  | cons commitment rest inductionHypothesis =>
      have first := latched.append setup conditions deployment.clock deployment.tables commitment
      rw [← appender_append] at first
      rw [appendAll]
      split
      case h_1 failure next stopped =>
        rwa [stopped] at first
      case h_2 checkpoint next appended =>
        rw [appended] at first
        exact inductionHypothesis _ _ first

theorem step_latched (setup : Setup) (conditions : Conditions) (operation : Operation)
    (latched : (deployment.appender name).Latched) :
    ((deployment.step setup conditions operation).2.appender name).Latched := by
  by_cases subject : operation.subject? = some name
  · cases operation with
    | inclusionProof | confirm | withStatus => cases subject
    | append _ commitment =>
        cases subject
        rw [step, appender_append]
        exact latched.append setup conditions deployment.clock deployment.tables commitment
    | appendAll _ commitments =>
        cases subject
        exact appendAll_latched setup commitments conditions none latched
    | recover _ =>
        cases subject
        rw [step, onAppender, appender_setAppender_self]
        exact latched.recover setup conditions deployment.tables
    | audit _ =>
        cases subject
        rw [step, onAppender, appender_setAppender_self]
        exact latched.audit setup conditions deployment.tables
    | resetHalt _ =>
        cases subject
        rw [step, onAppender, appender_setAppender_self]
        exact latched.resetHalt setup
    | hold _ =>
        cases subject
        rw [step, onAppender, appender_setAppender_self]
        exact latched
    | release _ =>
        cases subject
        rw [step, onAppender, appender_setAppender_self]
        exact latched.release
    | restart _ =>
        cases subject
        rw [step, appender_setAppender_self]
        exact Appender.Latched.of_runs rfl
  · rwa [step_appender_of_subject_ne setup conditions operation deployment subject]

/-! ## Out of the halt -/

/-- An append or a recovery of the appender succeeds in this step; of several appends the first one. -/
def Advances (setup : Setup) (conditions : Conditions) (name : String) (deployment : Deployment) :
    Operation → Prop
  | .append other commitment | .appendAll other (commitment :: _) =>
      other = name ∧
        ∃ checkpoint, (deployment.append setup conditions name commitment).1 = .ok checkpoint
  | .recover other =>
      other = name ∧
        ∃ tree, ((deployment.appender name).recover setup conditions deployment.tables).1 = .ok tree
  | _ => False

theorem append_of_forgotten (setup : Setup) (conditions : Conditions) (commitment : Bytes)
    (lawful : deployment.tables.Lawful) (forgotten : (deployment.appender name).tree = none) :
    let attempt := deployment.append setup conditions name commitment
    ((∃ failure, attempt.1 = .error failure) ∧ (attempt.2.appender name).tree = none) ∨
      ((∃ checkpoint, attempt.1 = .ok checkpoint) ∧
        deployment.tables.Recoverable setup.shape) := by
  intro attempt
  rw [appender_append]
  exact Appender.append_of_forgotten setup conditions deployment.clock commitment lawful forgotten

theorem recoverable_of_advances (setup : Setup) (conditions : Conditions) (operation : Operation)
    (lawful : deployment.tables.Lawful) (forgotten : (deployment.appender name).tree = none)
    (advances : deployment.Advances setup conditions name operation) :
    deployment.tables.Recoverable setup.shape := by
  have appends (commitment : Bytes) (stored : ∃ checkpoint,
      (deployment.append setup conditions name commitment).1 = .ok checkpoint) :
      deployment.tables.Recoverable setup.shape := by
    rcases append_of_forgotten setup conditions commitment lawful forgotten with
      ⟨⟨failure, failed⟩, _⟩ | ⟨_, recoverable⟩
    · obtain ⟨checkpoint, stored⟩ := stored
      rw [stored] at failed
      cases failed
    · exact recoverable
  cases operation with
  | append other commitment => exact appends commitment advances.2
  | appendAll other commitments =>
      cases commitments with
      | nil => cases advances
      | cons commitment rest => exact appends commitment advances.2
  | recover other =>
      obtain ⟨_, tree, recovered⟩ := advances
      rcases Appender.recover_of_forgotten setup conditions lawful forgotten with
        ⟨⟨failure, failed⟩, _⟩ | ⟨_, recoverable⟩
      · rw [recovered] at failed
        cases failed
      · exact recoverable
  | _ => cases advances

theorem step_forgotten (setup : Setup) (conditions : Conditions) (operation : Operation)
    (lawful : deployment.tables.Lawful) (forgotten : (deployment.appender name).tree = none)
    (idle : ¬deployment.Advances setup conditions name operation) :
    ((deployment.step setup conditions operation).2.appender name).tree = none := by
  by_cases subject : operation.subject? = some name
  · cases operation with
    | inclusionProof | confirm | withStatus => cases subject
    | append _ commitment =>
        cases subject
        rcases append_of_forgotten setup conditions commitment lawful forgotten with
          ⟨_, stays⟩ | ⟨stored, _⟩
        · exact stays
        · exact absurd ⟨rfl, stored⟩ idle
    | appendAll _ commitments =>
        cases subject
        cases commitments with
        | nil => exact forgotten
        | cons commitment rest =>
            rcases append_of_forgotten setup conditions commitment lawful forgotten with
              ⟨⟨failure, failed⟩, stays⟩ | ⟨stored, _⟩
            · rcases first : deployment.append setup conditions name commitment with ⟨result, next⟩
              rw [first] at failed stays
              cases failed
              simpa only [step, appendAll, first] using stays
            · exact absurd ⟨rfl, stored⟩ idle
    | recover _ =>
        cases subject
        rw [step, onAppender, appender_setAppender_self]
        rcases Appender.recover_of_forgotten setup conditions lawful forgotten with
          ⟨_, stays⟩ | ⟨recovered, _⟩
        · exact stays
        · exact absurd ⟨rfl, recovered⟩ idle
    | audit _ =>
        cases subject
        rw [step, onAppender, appender_setAppender_self]
        exact Appender.audit_of_forgotten setup conditions deployment.tables forgotten
    | resetHalt _ =>
        cases subject
        rw [step, onAppender, appender_setAppender_self]
        rcases Appender.resetHalt_cases setup (deployment.appender name) with
          ⟨failure, course⟩ | course
        · rwa [course]
        · rw [course]
    | hold _ =>
        cases subject
        rw [step, onAppender, appender_setAppender_self]
        exact forgotten
    | release _ =>
        cases subject
        rw [step, onAppender, appender_setAppender_self, (Appender.release_keeps _).2]
        exact forgotten
    | restart _ =>
        cases subject
        rw [step, appender_setAppender_self]
  · rwa [step_appender_of_subject_ne setup conditions operation deployment subject]

end Deployment

/-! ## Runs with tampering -/

/-- What befalls a deployment at one time: an operation, or another content of the tables. -/
inductive Incident where
  | operation (event : Event)
  | tampering (tables : Tables)

def Incident.Lawful : Incident → Prop
  | .operation _ => True
  | .tampering tables => tables.Lawful

instance : DecidablePred Incident.Lawful
  | .operation _ => inferInstanceAs (Decidable True)
  | .tampering tables => inferInstanceAs (Decidable tables.Lawful)

namespace Deployment

variable {setup : Setup} {deployment : Deployment} {name : String}

def suffer (setup : Setup) (deployment : Deployment) : Incident → Deployment
  | .operation event => after setup deployment event
  | .tampering tables => { deployment with tables }

def AdvancesAt (setup : Setup) (name : String) (deployment : Deployment) (event : Event) : Prop :=
  deployment.Advances { setup with timeout := event.timeout } event.conditions name event.operation

def Idle (setup : Setup) (name : String) : Deployment → List Incident → Prop
  | _, [] => True
  | deployment, .operation event :: rest =>
      ¬deployment.AdvancesAt setup name event ∧ Idle setup name (after setup deployment event) rest
  | deployment, .tampering tables :: rest => Idle setup name { deployment with tables } rest

def ResetAt (setup : Setup) (name : String) (deployment : Deployment) (event : Event) : Prop :=
  event.operation = .resetHalt name ∧
    (deployment.appender name).enter { setup with timeout := event.timeout } = .ok ()

theorem suffer_lawful (declared : setup.schema = .declared) (incident : Incident)
    (keeping : incident.Lawful) (lawful : deployment.tables.Lawful) :
    (suffer setup deployment incident).tables.Lawful := by
  cases incident with
  | operation event => exact step_lawful { setup with timeout := event.timeout } declared _ _ lawful
  | tampering tables => exact keeping

theorem foldl_suffer_lawful (declared : setup.schema = .declared) (incidents : List Incident)
    (keeping : ∀ incident ∈ incidents, incident.Lawful) (lawful : deployment.tables.Lawful) :
    (incidents.foldl (suffer setup) deployment).tables.Lawful := by
  induction incidents generalizing deployment with
  | nil => exact lawful
  | cons incident rest inductionHypothesis =>
      have next := suffer_lawful declared incident (keeping incident (by simp)) lawful
      exact inductionHypothesis
        (fun later member => keeping later (List.mem_cons_of_mem incident member)) next

theorem foldl_suffer_latched (setup : Setup) (incidents : List Incident)
    (latched : (deployment.appender name).Latched) :
    ((incidents.foldl (suffer setup) deployment).appender name).Latched := by
  induction incidents generalizing deployment with
  | nil => exact latched
  | cons incident rest inductionHypothesis =>
      cases incident with
      | operation event => exact inductionHypothesis (step_latched _ _ _ latched)
      | tampering tables => exact inductionHypothesis latched

theorem foldl_suffer_forgotten (declared : setup.schema = .declared) (incidents : List Incident)
    (keeping : ∀ incident ∈ incidents, incident.Lawful) (lawful : deployment.tables.Lawful)
    (forgotten : (deployment.appender name).tree = none)
    (idle : Idle setup name deployment incidents) :
    ((incidents.foldl (suffer setup) deployment).appender name).tree = none := by
  induction incidents generalizing deployment with
  | nil => exact forgotten
  | cons incident rest inductionHypothesis =>
      have later : ∀ incident ∈ rest, incident.Lawful := fun later member =>
        keeping later (List.mem_cons_of_mem incident member)
      have next := suffer_lawful declared incident (keeping incident (by simp)) lawful
      cases incident with
      | operation event =>
          have stays := step_forgotten { setup with timeout := event.timeout } event.conditions
            event.operation lawful forgotten idle.1
          exact inductionHypothesis later next stays idle.2
      | tampering tables => exact inductionHypothesis later next forgotten idle

theorem forgotten_of_resetAt {event : Event} (reset : deployment.ResetAt setup name event) :
    ((after setup deployment event).appender name).tree = none := by
  obtain ⟨asked, free⟩ := reset
  simp [after, asked, step, onAppender, appender_setAppender_self, Appender.resetHalt_eq, free]

/-- The halt of an appender in a run with any faults and any tampering.  A stopped appender keeps no tree.  It
stops in the steps in which one of its own checks tells of a violation, and works again only after a reset
that went through, or when it is replaced.  Meanwhile it refuses to build on the store for the reason that it
has stopped for, while audits and confirmations go on.  When it first advances after a reset, the store is
recoverable. -/
theorem halt_is_latched (setup : Setup) (declared : setup.schema = .declared) (start : Tables)
    (lawful : start.Lawful) (incidents : List Incident)
    (keeping : ∀ incident ∈ incidents, incident.Lawful) (name : String) :
    let reached := incidents.foldl (suffer setup) { tables := start }
    let appender := reached.appender name
    (appender.halted.isSome → appender.tree = none) ∧
      (∀ tables, (suffer setup reached (.tampering tables)).appender name = appender) ∧
      (∀ event : Event,
        let bounded := { setup with timeout := event.timeout }
        let result := (reached.step bounded event.conditions event.operation).1
        let next := after setup reached event
        match appender.halted with
        | none =>
            ∀ reason, (next.appender name).halted = some reason ↔
              event.operation.Checks name ∧ TellsViolation result reason
        | some reason =>
            ((next.appender name).halted = none ↔
              (event.operation = .resetHalt name ∧ result = .ok .nothing) ∨
                event.operation = .restart name) ∧
            (event.operation.Builds name → appender.enter bounded = .ok () →
              result = .error (.refused (.halted reason)) ∧ next.tables = reached.tables ∧
                next.appender name = appender) ∧
            (event.operation.Unlatched name →
              let cleared := reached.setAppender name { appender with halted := none }
              (cleared.step bounded event.conditions event.operation).1 = result ∧
                (after setup cleared event).tables = next.tables)) ∧
      (∀ (earlier : List Incident) (reset : Event) (between : List Incident),
        incidents = earlier ++ .operation reset :: between →
        let before := earlier.foldl (suffer setup) { tables := start }
        before.ResetAt setup name reset → Idle setup name (after setup before reset) between →
          ∀ event, reached.AdvancesAt setup name event → reached.tables.Recoverable setup.shape) := by
  intro reached appender
  refine ⟨?_, fun _ => rfl, ?_, ?_⟩
  · intro stopped
    obtain ⟨reason, stopped⟩ := Option.isSome_iff_exists.mp stopped
    have fresh : (({ tables := start } : Deployment).appender name).Latched :=
      Appender.Latched.of_runs rfl
    exact foldl_suffer_latched setup incidents fresh reason stopped
  · intro event bounded result next
    cases halted : appender.halted with
    | none => exact step_halted_iff bounded event.conditions event.operation halted
    | some reason =>
        exact ⟨step_released_iff bounded event.conditions event.operation halted,
          fun builds free => step_refused bounded event.conditions event.operation builds free halted,
          fun unlatched => step_of_cleared bounded event.conditions event.operation unlatched reached⟩
  · intro earlier reset between course before completed idle event advances
    subst course
    have throughout : reached =
        between.foldl (suffer setup) (after setup before reset) := List.foldl_append
    have beforeLawful : before.tables.Lawful := foldl_suffer_lawful declared earlier
      (fun incident member => keeping incident (List.mem_append_left _ member)) lawful
    have resetLawful : (after setup before reset).tables.Lawful :=
      step_lawful { setup with timeout := reset.timeout } declared _ _ beforeLawful
    have betweenKeeping : ∀ incident ∈ between, incident.Lawful := fun incident member =>
      keeping incident (List.mem_append_right _ (List.mem_cons_of_mem _ member))
    have forgotten : (reached.appender name).tree = none := by
      rw [throughout]
      exact foldl_suffer_forgotten declared between betweenKeeping resetLawful
        (forgotten_of_resetAt completed) idle
    have reachedLawful : reached.tables.Lawful := by
      rw [throughout]
      exact foldl_suffer_lawful declared between betweenKeeping resetLawful
    exact recoverable_of_advances { setup with timeout := event.timeout } event.conditions
      event.operation reachedLawful forgotten advances

def wrongRoot : Tables :=
  { Appender.twoAppended with
    checkpoints := Appender.twoAppended.checkpoints.map fun checkpoint =>
      if checkpoint.identityCount = 2 then { checkpoint with root := [9] } else checkpoint }

/-- The root is altered, an audit stops the appender, which then refuses to append, and an operator sets it
working again once the root is what it was. -/
def repaired : List Incident :=
  let calm (operation : Operation) : Event := { timeout := .ofInt 10, conditions := {}, operation }
  [.operation (calm (.recover "first")),
   .tampering wrongRoot,
   .operation (calm (.audit "first")),
   .operation (calm (.append "first" [3])),
   .operation (calm (.resetHalt "first")),
   .tampering Appender.twoAppended]

/-- Before the repair the appender refuses and has no tree, and the recovery after it succeeds because the
store is recoverable again. -/
theorem halt_is_latched_repaired :
    let stopped := (repaired.take 3).foldl (suffer Appender.twoLeaves)
      { tables := Appender.twoAppended }
    (stopped.appender "first").tree = none ∧
      (∃ reason, (stopped.appender "first").halted = some reason ∧
        (stopped.step Appender.twoLeaves {} (.append "first" [3])).1 =
          .error (.refused (.halted reason))) ∧
      Appender.twoAppended.Recoverable Appender.twoLeaves.shape := by
  intro stopped
  obtain ⟨noTree, _, stands, _⟩ := halt_is_latched Appender.twoLeaves rfl Appender.twoAppended
    (by decide) (repaired.take 3) (by decide) "first"
  obtain ⟨_, _, _, leaves⟩ := halt_is_latched Appender.twoLeaves rfl Appender.twoAppended (by decide)
    repaired (by decide) "first"
  have isStopped : (stopped.appender "first").halted.isSome := by decide +kernel
  refine ⟨noTree isStopped, ?_, ?_⟩
  · obtain ⟨reason, halted⟩ := Option.isSome_iff_exists.mp isStopped
    have free : (stopped.appender "first").enter Appender.twoLeaves = .ok () := by decide +kernel
    have refuses := stands
      { timeout := .ofInt 10, conditions := {}, operation := .append "first" [3] }
    change (stopped.appender "first").halted = some reason at halted
    rw [halted] at refuses
    exact ⟨reason, halted, (refuses.2.1 rfl free).1⟩
  · have completed : ((repaired.take 4).foldl (suffer Appender.twoLeaves)
        { tables := Appender.twoAppended }).ResetAt Appender.twoLeaves "first"
        { timeout := .ofInt 10, conditions := {}, operation := .resetHalt "first" } :=
      ⟨rfl, by decide +kernel⟩
    refine leaves (repaired.take 4) _ (repaired.drop 5) rfl completed trivial
      { timeout := .ofInt 10, conditions := {}, operation := .recover "first" } ⟨rfl, ?_⟩
    exact ⟨Appender.twoLeaves.shape.stateOver [[1], [2]], by decide +kernel⟩

end Deployment

end CommitmentLog
