import CommitmentLog.Confirmation
import CommitmentLog.Proofs.Outcome
import CommitmentLog.Proofs.Store.StatusChange

/-!
# What a confirmation keeps

A confirmation and the writers that come between its steps change the tables by changes of status only, as
long as none of these writers deletes the checkpoint.  So a property that holds before a confirmation holds
after it if single changes of status keep it.
-/

set_option autoImplicit false

namespace CommitmentLog.Confirmation

open Store

/-- Another writer that changes the status at most, and gives a time exactly to what it marks as mined. -/
def Interference.Fair : Interference → Prop
  | .nothing => True
  | .delete => False
  | .write status minedAt => status.Timed (minedAt.map Timestamp.ofCivil)

instance : DecidablePred Interference.Fair
  | .nothing => inferInstanceAs (Decidable True)
  | .delete => inferInstanceAs (Decidable False)
  | .write _ _ => inferInstanceAs (Decidable (Status.Timed _ _))

structure Interruption.Fair (interruption : Interruption) : Prop where
  afterCheck : interruption.afterCheck.Fair
  beforeRead : interruption.beforeRead.Fair

instance : DecidablePred Interruption.Fair := fun _ =>
  decidable_of_iff (_ ∧ _) ⟨fun ⟨check, read⟩ => ⟨check, read⟩, fun ⟨check, read⟩ => ⟨check, read⟩⟩

/-- A property of tables that no change of status takes away, if it keeps times and statuses together. -/
def KeptByTimed (schema : Schema) (root : Bytes) (keeps : Tables → Prop) : Prop :=
  ∀ (tables after : Tables) (selector : Assignment CheckpointColumn) (status : Status)
    (minedAt : Option Timestamp) (touched : Nat), keeps tables → status.Timed minedAt →
      (Statement.setStatus root selector status minedAt).run schema tables = some (after, touched) →
        keeps after

/-- A property of tables that a change to a status and a time does not take away, nor the other writers that
are permitted meanwhile. -/
structure KeptUnder (schema : Schema) (root : Bytes) (permits : Interference → Prop) (next : Status)
    (given : Option Civil) (keeps : Tables → Prop) : Prop where
  calm : permits .nothing
  others : ∀ (tables : Tables) (interference : Interference), permits interference → keeps tables →
    keeps (interference.apply schema root tables)
  own : ∀ (tables after : Tables) (prior : Status) (touched : Nat), keeps tables →
    settle schema tables root prior next given = some (after, touched) → keeps after

def Interruption.Permitted (permits : Interference → Prop) (interruption : Interruption) : Prop :=
  permits interruption.afterCheck ∧ permits interruption.beforeRead

variable {schema : Schema} {conditions : Conditions} {root : Bytes} {permits : Interference → Prop}
  {next : Status} {given : Option Civil} {keeps : Tables → Prop} {tables : Tables}
  {script : List Interruption}

theorem headD_permitted (calm : permits .nothing)
    (permitted : ∀ interruption ∈ script, interruption.Permitted permits) :
    (script.headD {}).Permitted permits := by
  cases script with
  | nil => exact ⟨calm, calm⟩
  | cons first rest => exact permitted first (by simp)

theorem passes_keeps (stable : KeptUnder schema root permits next given keeps) (remaining : Nat)
    (before : Interference) (beforePermitted : permits before)
    (permitted : ∀ interruption ∈ script, interruption.Permitted permits) (kept : keeps tables) :
    keeps (passes schema conditions root next given remaining before script tables).2 := by
  induction remaining generalizing before script tables with
  | zero => exact kept
  | succ remaining inductionHypothesis =>
      have read := stable.others _ _ beforePermitted kept
      have interruption := headD_permitted stable.calm permitted
      have checked := stable.others _ _ interruption.1 read
      rw [passes]
      simp only
      split
      case h_1 => exact read
      case h_2 checkpoint due examined =>
        split
        case isTrue => exact checked
        case isFalse =>
          split
          case isTrue => exact checked
          case isFalse =>
            split
            case h_1 => exact checked
            case h_2 after touched written =>
              have settled : keeps after := stable.own _ _ _ touched checked written
              split
              case isTrue =>
                have reread := stable.others _ _ interruption.2 settled
                split
                · exact reread
                · exact reread
              case isFalse =>
                exact inductionHypothesis _ interruption.2
                  (fun later member => permitted later (List.mem_of_mem_tail member)) settled

theorem applyStatus_keeps (conditions : Conditions) (given : Option Timestamp)
    (stable : ∀ universal, given.mapM Checkpoints.universal = .ok universal →
      KeptUnder schema root permits next universal keeps)
    (permitted : ∀ interruption ∈ script, interruption.Permitted permits) (kept : keeps tables) :
    keeps (applyStatus schema conditions script root next given tables).2 := by
  rw [applyStatus]
  split
  case h_1 => exact kept
  case h_2 universal converted =>
    have stable := stable universal converted
    exact passes_keeps stable 2 .nothing stable.calm permitted kept

theorem confirm_keepsUnder (conditions : Conditions) (minedAt : Timestamp)
    (stable : ∀ universal, KeptUnder schema root permits .mined (some universal) keeps)
    (permitted : ∀ interruption ∈ script, interruption.Permitted permits) (kept : keeps tables) :
    keeps (confirm schema conditions script root minedAt tables).tables := by
  have converted : ∀ universal, (some minedAt).mapM Checkpoints.universal = .ok universal →
      KeptUnder schema root permits .mined universal keeps := by
    intro universal converts
    obtain ⟨civil, _, rest⟩ := bind_ok converts
    cases rest
    exact stable civil
  have applied := applyStatus_keeps conditions (some minedAt) converted permitted kept
  rw [confirm]
  split
  case h_1 => exact kept
  case h_2 checkpoint written after outcome =>
    rw [outcome] at applied
    split
    · exact kept
    · split
      · exact applied
      · exact applied

/-! ## Fair writers -/

theorem Interference.apply_keeps (stable : KeptByTimed schema root keeps) (interference : Interference)
    (fair : interference.Fair) (kept : keeps tables) :
    keeps (interference.apply schema root tables) := by
  cases interference with
  | nothing => exact kept
  | delete => cases fair
  | write status minedAt =>
      rw [apply]
      cases written : (Statement.setStatus root [] status (minedAt.map Timestamp.ofCivil)).run schema
        tables with
      | none => exact kept
      | some outcome => exact stable _ _ _ _ _ outcome.2 kept fair written

theorem KeptByTimed.under (stable : KeptByTimed schema root keeps) (universal : Civil) :
    KeptUnder schema root Interference.Fair .mined (some universal) keeps := by
  have timed : Status.mined.Timed (some (Timestamp.ofCivil universal)) := by simp [Status.Timed]
  refine ⟨trivial, fun _ interference => interference.apply_keeps stable, ?_⟩
  intro tables after prior touched kept written
  exact stable _ _ _ _ _ touched kept timed written

theorem confirm_keeps (conditions : Conditions) (stable : KeptByTimed schema root keeps)
    (minedAt : Timestamp)
    (fair : ∀ interruption ∈ script, interruption.Fair) (kept : keeps tables) :
    keeps (confirm schema conditions script root minedAt tables).tables :=
  confirm_keepsUnder conditions minedAt stable.under
    (fun interruption member => ⟨(fair interruption member).afterCheck,
      (fair interruption member).beforeRead⟩) kept

/-! ## Any writers -/

theorem lawful_keptUnder (root : Bytes) (universal : Civil) :
    KeptUnder .declared root (fun _ => True) .mined (some universal) Tables.Lawful := by
  refine ⟨trivial, ?_, ?_⟩
  · intro tables interference _ lawful
    cases interference with
    | nothing => exact lawful
    | delete => exact lawful.filterCheckpoints _
    | write status minedAt =>
        rw [Interference.apply, Statement.run_setStatus root [] status _ lawful]
        exact (Statement.sameClaims_withStatusSet root [] status _ tables).lawful lawful
  · intro tables after prior touched lawful written
    rw [settle, Statement.run_setStatus _ _ _ _ lawful] at written
    cases written
    exact (Statement.sameClaims_withStatusSet _ _ _ _ tables).lawful lawful

theorem confirm_lawful (conditions : Conditions) (script : List Interruption) (root : Bytes)
    (minedAt : Timestamp) (lawful : tables.Lawful) :
    (confirm .declared conditions script root minedAt tables).tables.Lawful :=
  confirm_keepsUnder conditions minedAt (lawful_keptUnder root) (fun _ _ => ⟨trivial, trivial⟩) lawful

end CommitmentLog.Confirmation
