import CommitmentLog.Proofs.Deployment.Run

/-!
# The ledger grows

No operation takes a commitment away or changes one: what the ledger held before an event is the beginning
of what it holds afterwards.  Only appends add to it.
-/

set_option autoImplicit false

namespace CommitmentLog

open Store

def Operation.Appends : Operation → Prop
  | .append _ _ | .appendAll _ _ => True
  | _ => False

namespace Deployment

variable {setup : Setup} {conditions : Conditions} {deployment : Deployment}

theorem confirm_identities (declared : setup.schema = .declared) (conditions : Conditions)
    (script : List Confirmation.Interruption) (fair : ∀ interruption ∈ script, interruption.Fair)
    (root : Bytes) (minedAt : Timestamp) (sound : deployment.Sound setup.shape) :
    (deployment.confirm setup conditions script root minedAt).2.tables.identities =
      deployment.tables.identities := by
  have kept := Confirmation.confirm_keeps conditions
    (sound_keptByTimed setup.shape root deployment.tables.identities) minedAt fair
    ⟨sound.tables, rfl⟩
  rw [← declared] at kept
  exact kept.2

theorem step_identities (setup : Setup) (declared : setup.schema = .declared) (operation : Operation)
    (quiet : ¬operation.Appends) (fair : operation.Fair) (sound : deployment.Sound setup.shape) :
    (deployment.step setup conditions operation).2.tables.identities =
      deployment.tables.identities := by
  cases operation with
  | append name commitment => exact absurd trivial quiet
  | appendAll name commitments => exact absurd trivial quiet
  | confirm script root minedAt =>
      exact confirm_identities declared conditions script fair root minedAt sound
  | _ => rfl

theorem append_grows (declared : setup.schema = .declared)
    (honest : conditions.strikes .hasherStuck = false) (name : String) (commitment : Bytes)
    (sound : deployment.Sound setup.shape) :
    deployment.tables.commitments <+:
      (deployment.append setup conditions name commitment).2.tables.commitments :=
  (Appender.append_sound declared honest deployment.clock commitment sound.tables
    (sound.knows name)).2.1

theorem appendAll_grows (declared : setup.schema = .declared) (name : String)
    (commitments : List Bytes) (honest : conditions.strikes .hasherStuck = false)
    (last : Option Checkpoint) (sound : deployment.Sound setup.shape) :
    deployment.tables.commitments <+:
      (appendAll setup name conditions last commitments deployment).2.tables.commitments := by
  induction commitments generalizing conditions last deployment with
  | nil => exact List.prefix_refl _
  | cons commitment rest inductionHypothesis =>
      have grown := append_grows declared honest name commitment sound
      have stays := append_sound declared honest name commitment sound
      rw [appendAll]
      split
      case h_1 failure next stopped =>
        rw [stopped] at grown
        exact grown
      case h_2 checkpoint next appended =>
        rw [appended] at grown stays
        have later : (conditions.after writesPerAppend).strikes .hasherStuck = false := honest
        exact grown.trans (inductionHypothesis later (some checkpoint) stays)

theorem step_grows (setup : Setup) (declared : setup.schema = .declared)
    (honest : conditions.strikes .hasherStuck = false) (operation : Operation)
    (fair : operation.Fair) (sound : deployment.Sound setup.shape) :
    deployment.tables.commitments <+:
      (deployment.step setup conditions operation).2.tables.commitments := by
  cases operation with
  | append name commitment => exact append_grows declared honest name commitment sound
  | appendAll name commitments => exact appendAll_grows declared name commitments honest none sound
  | confirm script root minedAt =>
      have same := confirm_identities declared conditions script fair root minedAt sound
      have kept : deployment.tables.commitments =
          (deployment.confirm setup conditions script root minedAt).2.tables.commitments :=
        congrArg (List.map Identity.commitment) same.symm
      exact kept ▸ List.prefix_refl deployment.tables.commitments
  | _ => exact List.prefix_refl _

theorem foldl_after_grows (declared : setup.schema = .declared) (events : List Event)
    (fair : ∀ event ∈ events, event.Fair) (sound : deployment.Sound setup.shape) :
    deployment.tables.commitments <+:
      (events.foldl (after setup) deployment).tables.commitments := by
  induction events generalizing deployment with
  | nil => exact List.prefix_refl _
  | cons event rest inductionHypothesis =>
      have first := fair event (by simp)
      have grown := step_grows { setup with timeout := event.timeout } declared first.honest
        event.operation first.operation sound
      have stays := after_sound declared event first sound
      exact grown.trans (inductionHypothesis
        (fun later member => fair later (List.mem_cons_of_mem event member)) stays)

end Deployment

end CommitmentLog
