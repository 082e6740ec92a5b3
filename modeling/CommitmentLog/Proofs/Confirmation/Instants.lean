import CommitmentLog.Proofs.Time.Instant
import CommitmentLog.Session
import Mathlib.Data.List.Forall2

/-!
# Confirmations and instants

A change of status looks at the time it is given only through its civil time in universal time.  Two times
that name one instant have the same one, so a log that is changed by one of them is changed in the same way
by the other, and so are all the changes and confirmations that follow.
-/

set_option autoImplicit false

namespace CommitmentLog

open Store

namespace Checkpoints

variable {timestamp first second : Timestamp}

theorem universal_of_not_inCalendar (valid : timestamp.civil.Valid) (outside : ¬timestamp.InCalendar) :
    universal timestamp = .error .dateOutOfRange := by
  rw [universal, (Timestamp.toUniversal?_eq_none_iff valid).mpr outside]

theorem universal_eq_ok_iff {civil : Civil} :
    universal timestamp = .ok civil ↔ timestamp.toUniversal? = some civil := by
  rw [universal]
  cases timestamp.toUniversal? <;> simp

theorem universal_of_inCalendar (valid : timestamp.civil.Valid) (inside : timestamp.InCalendar) :
    ∃ civil : Civil, universal timestamp = .ok civil ∧ civil.Valid ∧
      (civil.elapsed : Int) = timestamp.instant ∧ universal (.ofCivil civil) = .ok civil := by
  obtain ⟨civil, converted⟩ := Option.ne_none_iff_exists'.mp
    fun unconverted => (Timestamp.toUniversal?_eq_none_iff valid).mp unconverted inside
  obtain ⟨civilValid, measured⟩ := (Timestamp.toUniversal?_eq_some_iff valid).mp converted
  exact ⟨civil, universal_eq_ok_iff.mpr converted, civilValid, measured, rfl⟩

theorem universal_congr (times : first.SameInstant second) : universal first = universal second := by
  rw [universal, universal, times.toUniversal?_eq]

end Checkpoints

namespace Confirmation

variable (schema : Schema) (conditions : Conditions) (script : List Interruption) (root : Bytes)
  {first second : Timestamp}

theorem applyStatus_congr (times : first.SameInstant second) (next : Status) (tables : Tables) :
    applyStatus schema conditions script root next (some first) tables =
      applyStatus schema conditions script root next (some second) tables := by
  rw [applyStatus, applyStatus, Option.mapM_some, Option.mapM_some, Checkpoints.universal_congr times]

theorem confirm_congr (times : first.SameInstant second) (tables : Tables) :
    confirm schema conditions script root first tables =
      confirm schema conditions script root second tables := by
  rw [confirm, confirm, applyStatus_congr schema conditions script root times]

end Confirmation

/-! ## Sessions -/

namespace Session

/-- The same operation twice, or one change of status at two times of one instant. -/
inductive Operation.SameInstants : Operation → Operation → Prop where
  | same (operation : Operation) : SameInstants operation operation
  | changeStatus {script : List Confirmation.Interruption} {root : Bytes} {status : Status}
      {first second : Timestamp} (times : first.SameInstant second) :
      SameInstants (.changeStatus script root status (some first))
        (.changeStatus script root status (some second))

theorem step_congr (schema : Schema) (conditions : Conditions) (session : Session)
    {first second : Operation} (same : first.SameInstants second) :
    session.step schema conditions first = session.step schema conditions second := by
  cases same with
  | same => rfl
  | changeStatus times =>
      simp only [step, within, Confirmation.applyStatus_congr schema conditions _ _ times, spoils, rejected]

def history (schema : Schema) :
    Session → List (Conditions × Operation) → List (Except Failure Answer × Bool × Session)
  | _, [] => []
  | session, (conditions, operation) :: rest =>
      let outcome := session.step schema conditions operation
      outcome :: history schema outcome.2.2 rest

def SameInstants (steps others : List (Conditions × Operation)) : Prop :=
  List.Forall₂ (fun step other => step.1 = other.1 ∧ step.2.SameInstants other.2) steps others

theorem history_congr (schema : Schema) {steps others : List (Conditions × Operation)}
    (same : SameInstants steps others) (session : Session) :
    history schema session steps = history schema session others := by
  induction same generalizing session with
  | nil => rfl
  | @cons step other _ _ sameStep _ inductionHypothesis =>
      obtain ⟨conditions, operation⟩ := step
      obtain ⟨_, otherOperation⟩ := other
      obtain ⟨rfl, sameOperation⟩ := sameStep
      simp only [history, step_congr schema conditions session sameOperation, inductionHypothesis]

end Session

/-! ## Any number of transactions -/

namespace Confirmation

/-- Operations of one session, of which only those before a commit are kept, or a confirmation. -/
inductive Transaction where
  | session (steps : List (Conditions × Session.Operation))
  | confirm (conditions : Conditions) (script : List Interruption) (root : Bytes) (minedAt : Timestamp)

inductive Report where
  | session (history : List (Except Failure Session.Answer × Bool × Session))
  | confirmed (confirmed : Confirmed)

namespace Transaction

def run (schema : Schema) (tables : Tables) : Transaction → Report × Tables
  | .session steps =>
      let history := Session.history schema { committed := tables, working := tables } steps
      (.session history, (history.getLast?.map fun outcome => outcome.2.2.committed).getD tables)
  | .confirm conditions script root minedAt =>
      let confirmed := Confirmation.confirm schema conditions script root minedAt tables
      (.confirmed confirmed, confirmed.tables)

def history (schema : Schema) : Tables → List Transaction → List (Report × Tables)
  | _, [] => []
  | tables, transaction :: rest =>
      let outcome := transaction.run schema tables
      outcome :: history schema outcome.2 rest

/-- The same transaction, but for the times, of which only the instants are the same. -/
inductive SameInstants : Transaction → Transaction → Prop where
  | session {steps others : List (Conditions × Session.Operation)}
      (same : Session.SameInstants steps others) : SameInstants (.session steps) (.session others)
  | confirm {conditions : Conditions} {script : List Interruption} {root : Bytes}
      {first second : Timestamp} (times : first.SameInstant second) :
      SameInstants (.confirm conditions script root first) (.confirm conditions script root second)

theorem run_congr (schema : Schema) (tables : Tables) {first second : Transaction}
    (same : first.SameInstants second) : first.run schema tables = second.run schema tables := by
  cases same with
  | session same => rw [run, run, Session.history_congr schema same]
  | confirm times => rw [run, run, confirm_congr schema _ _ _ times]

theorem history_congr (schema : Schema) {transactions others : List Transaction}
    (same : List.Forall₂ SameInstants transactions others) (tables : Tables) :
    history schema tables transactions = history schema tables others := by
  induction same generalizing tables with
  | nil => rfl
  | cons sameFirst _ inductionHypothesis =>
      simp only [history, run_congr schema tables sameFirst, inductionHypothesis]

end Transaction

/-- The civil time in universal time of a timestamp is that of its instant, and there is none exactly if the
instant lies outside the calendar; it compares as the instant does.  Nothing else of a timestamp decides what
changes of status and confirmations answer and store. -/
theorem decided_by_instants (first second : Timestamp) (firstValid : first.civil.Valid)
    (secondValid : second.civil.Valid) (schema : Schema) (tables : Tables)
    (transactions others : List Transaction)
    (same : List.Forall₂ Transaction.SameInstants transactions others) :
    (¬first.InCalendar → Checkpoints.universal first = .error .dateOutOfRange) ∧
    (first.InCalendar → ∃ civil : Civil, Checkpoints.universal first = .ok civil ∧ civil.Valid ∧
      (civil.elapsed : Int) = first.instant ∧ Checkpoints.universal (.ofCivil civil) = .ok civil) ∧
    (∀ firstShown secondShown, Checkpoints.universal first = .ok firstShown →
      Checkpoints.universal second = .ok secondShown →
      (Timestamp.ofCivil firstShown).isBefore? (Timestamp.ofCivil secondShown) =
          some (decide (first.instant < second.instant)) ∧
        (firstShown.fields < secondShown.fields ↔ first.instant < second.instant) ∧
        (firstShown = secondShown ↔ first.instant = second.instant)) ∧
    Transaction.history schema tables transactions = Transaction.history schema tables others := by
  refine ⟨Checkpoints.universal_of_not_inCalendar firstValid,
    Checkpoints.universal_of_inCalendar firstValid, ?_, Transaction.history_congr schema same tables⟩
  intro firstShown secondShown firstConverted secondConverted
  exact Timestamp.compare_universal firstValid secondValid
    (Checkpoints.universal_eq_ok_iff.mp firstConverted)
    (Checkpoints.universal_eq_ok_iff.mp secondConverted)

/-- The last half hour of a leap day, west of universal time, and the first moment of March that it is. -/
theorem decided_by_instants_leapDay :
    let leapDay : Timestamp :=
      { civil := { year := 2024, month := 2, day := 29, hour := 23, minute := 30 }, offset := some (-1800) }
    let march : Timestamp := .ofCivil { year := 2024, month := 3, day := 1 }
    let tables : Tables :=
      { identities := [{ leafIndex := 0, commitment := [5] }]
        checkpoints :=
          [{ root := [7], lastIdentity := [5], lastLeafIndex := 0, identityCount := 1, status := .pending
             createdAt := march, minedAt := none }] }
    let calls := fun time : Timestamp =>
      [Transaction.confirm {} [] [7] time,
       .session [({}, .changeStatus [] [7] .mined (some time)), ({}, .commit)]]
    leapDay.civil.Valid ∧ march.civil.Valid ∧
      List.Forall₂ Transaction.SameInstants (calls leapDay) (calls march) ∧
      Checkpoints.universal leapDay = .ok march.civil ∧
      Transaction.history .declared tables (calls leapDay) =
        Transaction.history .declared tables (calls march) := by
  intro leapDay march tables calls
  have leapDayValid : leapDay.civil.Valid := by decide
  have marchValid : march.civil.Valid := by decide
  have sameInstant : leapDay.instant = march.instant := by decide
  have times : leapDay.SameInstant march := ⟨leapDayValid, marchValid, sameInstant⟩
  have same : List.Forall₂ Transaction.SameInstants (calls leapDay) (calls march) :=
    .cons (.confirm times) (.cons (.session (.cons ⟨rfl, .changeStatus times⟩
      (.cons ⟨rfl, .same _⟩ .nil))) .nil)
  obtain ⟨_, shown, compared, histories⟩ :=
    decided_by_instants leapDay march leapDayValid marchValid .declared tables _ _ same
  obtain ⟨civil, converted, _⟩ := shown (by decide)
  rw [((compared civil march.civil converted rfl).2.2).mpr sameInstant] at converted
  exact ⟨leapDayValid, marchValid, same, converted, histories⟩

end Confirmation

end CommitmentLog
