import CommitmentLog.Deployment
import CommitmentLog.Proofs.Appender.Append
import CommitmentLog.Proofs.Confirmation.Keeps

/-!
# Lawful tables stay lawful

No operation breaks the rules for the rows of each table, whatever the tables hold otherwise, whatever fails,
and whatever other writers do to the checkpoint that is being confirmed.
-/

set_option autoImplicit false

namespace CommitmentLog.Deployment

open Store

variable {setup : Setup} {deployment : Deployment}

theorem append_lawful (declared : setup.schema = .declared) (conditions : Conditions) (name : String)
    (commitment : Bytes) (lawful : deployment.tables.Lawful) :
    (deployment.append setup conditions name commitment).2.tables.Lawful := by
  have course := Appender.append_cases setup conditions deployment.clock deployment.tables
    (deployment.appender name) commitment
  rw [append]
  rcases course with ⟨failure, _, course⟩ | ⟨other, _, course⟩ | ⟨_, _, cause, later, _, course⟩ |
    ⟨_, _, appended, later, committed, course⟩
  · rwa [course]
  · rwa [course]
  · rwa [course]
  · have stores := Setup.transaction_ok committed
    have identityTaken := stores.identityTaken
    have checkpointTaken := stores.checkpointTaken
    rw [declared] at identityTaken checkpointTaken
    rw [course]
    simp only [stores.tables]
    exact (lawful.insertIdentity identityTaken).insertCheckpoint checkpointTaken

theorem appendAll_lawful (declared : setup.schema = .declared) (name : String)
    (commitments : List Bytes) (conditions : Conditions) (last : Option Checkpoint)
    (lawful : deployment.tables.Lawful) :
    (appendAll setup name conditions last commitments deployment).2.tables.Lawful := by
  induction commitments generalizing conditions last deployment with
  | nil => exact lawful
  | cons commitment rest inductionHypothesis =>
      have first := append_lawful declared conditions name commitment lawful
      rw [appendAll]
      split
      case h_1 failure next stopped =>
        rwa [stopped] at first
      case h_2 checkpoint next appended =>
        rw [appended] at first
        exact inductionHypothesis _ _ first

theorem step_lawful (setup : Setup) (declared : setup.schema = .declared) (conditions : Conditions)
    (operation : Operation) (lawful : deployment.tables.Lawful) :
    (deployment.step setup conditions operation).2.tables.Lawful := by
  cases operation with
  | append name commitment => exact append_lawful declared conditions name commitment lawful
  | appendAll name commitments =>
      exact appendAll_lawful declared name commitments conditions none lawful
  | confirm script root minedAt =>
      have confirmed := Confirmation.confirm_lawful conditions script root minedAt lawful
      rwa [← declared] at confirmed
  | _ => exact lawful

end CommitmentLog.Deployment
