import CommitmentLog.Http.Service
import CommitmentLog.Proofs.Appender.Inclusion
import CommitmentLog.Proofs.Appender.Verdict
import CommitmentLog.Proofs.Confirmation.Faultless
import CommitmentLog.Proofs.Deployment.Run
import CommitmentLog.Proofs.Http.Replies

/-!
# What an endpoint comes to

On a store that the log itself has made of an empty one, and without faults, an endpoint fails in two ways
only: the log refuses, which has a response, or a number is out of range, which has none.  Which of the two it
is can be told from the request and the tables.  Only an endpoint that succeeds changes the tables.
-/

set_option autoImplicit false

namespace CommitmentLog

open Store

/-- No fault strikes, and the clock on the wall shows a time that can be recorded. -/
structure Conditions.Healthy (conditions : Conditions) : Prop where
  faultless : conditions.faults = []
  shown : conditions.now.toUniversal?.isSome

instance : DecidablePred Conditions.Healthy := fun _ =>
  decidable_of_iff (_ ∧ _)
    ⟨fun ⟨faultless, shown⟩ => ⟨faultless, shown⟩, fun ⟨faultless, shown⟩ => ⟨faultless, shown⟩⟩

/-! ## Numbers out of range -/

namespace Tables

/-- A commitment would be the next one of a tree that still has room, but there are more leaves than the store
can count. -/
structure CountsOut (shape : Tree.Shape Bytes) (tables : Tables) (commitment : Bytes) : Prop where
  room : tables.identities.length < shape.capacity
  fresh : tables.withRoot? (shape.rootOver (tables.commitments ++ [commitment])) = none
  large : ¬Statement.fits (tables.identities.length + 1) = true

end Tables

theorem Setup.decision_unrefused_iff (setup : Setup) (conditions : Conditions) (clock : Binary)
    (tables : Tables) (commitment : Bytes) (now : Civil) :
    (∃ failure, setup.decision conditions clock tables commitment now = .error failure ∧
        failure.refusal? = none) ↔
      tables.CountsOut setup.shape commitment := by
  rw [decision, Tables.verdict]
  by_cases full : setup.shape.capacity ≤ tables.identities.length
  · rw [if_pos full]
    constructor
    · rintro ⟨failure, failed, unrefused⟩
      cases failed
      cases unrefused
    · rintro ⟨room, _, _⟩
      exact absurd full (Nat.not_le_of_lt room)
  · rw [if_neg full]
    by_cases recorded :
        (tables.withRoot? (setup.shape.rootOver (tables.commitments ++ [commitment]))).isSome
    · simp only [if_pos recorded]
      constructor
      · rintro ⟨failure, failed, unrefused⟩
        cases failed
        cases unrefused
      · rintro ⟨_, fresh, _⟩
        rw [fresh] at recorded
        cases recorded
    · simp only [if_neg recorded]
      by_cases fit : Statement.fits (tables.identities.length + 1) = true
      · rw [if_pos fit]
        constructor
        · rintro ⟨failure, failed, unrefused⟩
          change (if _ then _ else _) = _ at failed
          split at failed
          · cases failed
            cases unrefused
          · cases failed
        · rintro ⟨_, _, large⟩
          exact absurd fit large
      · rw [if_neg fit]
        exact ⟨fun _ => ⟨Nat.lt_of_not_le full, Option.not_isSome_iff_eq_none.mp recorded, fit⟩,
          fun _ => ⟨_, rfl, rfl⟩⟩

namespace Ledger

def InRange (cursor : Option Int) (limit : Int) : Prop :=
  (∀ value ∈ cursor, Statement.fits value = true) ∧ Statement.fits limit = true

end Ledger

namespace Http.Service

/-! ## Healthy services -/

/-- The tables are what the log has made of empty ones, and the appender is free and runs. -/
structure Healthy (service : Service) : Prop where
  declared : service.setup.schema = .declared
  sound : service.deployment.Sound service.setup.shape
  universal : service.deployment.tables.InUniversalTime
  entered : service.appender.enter service.setup = .ok ()
  runs : service.appender.halted = none

/-- What a request comes to: no response in the given case and a response by rule in every other, and the same
tables unless the request succeeds. -/
structure Settles (service : Service) (unanswerable : Prop) (outcome : Reply × Service) : Prop where
  mapped : outcome.1.MappedUnless unanswerable
  keeps : (∀ response, outcome.1 = .response response → response.status ≠ 200) →
    outcome.2.deployment.tables = service.deployment.tables

variable {service : Service} {conditions : Conditions} {unanswerable : Prop} {reply : Reply}

/-- A request leads to a number that is out of range, or its issues cannot be shown. -/
def Unanswerable (service : Service) (arrival : Arrival) : Endpoint → Prop
  | .insertIdentity =>
      ∃ submission, arrival.submission? = .ok submission ∧
        submission.Unanswerable Submitted.commitment fun commitment =>
          service.deployment.tables.CountsOut service.setup.shape commitment.bytes
  | .inclusionProof =>
      ∃ submission, arrival.submission? = .ok submission ∧
        submission.Unanswerable Submitted.commitment fun _ => False
  | .identities =>
      ∃ cursor limit, paging arrival.target = .ok (cursor, limit) ∧
        1 ≤ limit ∧ limit ≤ service.maxExportLimit ∧ ¬Ledger.InRange cursor limit
  | .confirm =>
      ∃ submission, arrival.submission? = .ok submission ∧
        tokenRefusal? service.miningToken arrival.headers = none ∧
          submission.Unanswerable Submitted.confirmation fun confirmation =>
            confirmation.minedAt.toUniversal? = none
  | .description | .manual | .manualRedirect | .home | .health | .ready | .metrics | .latestRoot |
      .oneRoot | .roots | .pendingRoots => False

section Reading

variable {target : Target}

end Reading

/-! ## Submitting -/

section Submitting

theorem append_decides (healthy : service.Healthy) (calm : conditions.Healthy) (commitment : Bytes) :
    let appended := service.deployment.append service.setup conditions appenderName commitment
    ((∃ failure, appended.1 = .error failure ∧ failure.refusal? = none) ↔
        service.deployment.tables.CountsOut service.setup.shape commitment) ∧
      Healthy { service with deployment := appended.2 } ∧
      ∀ failure, appended.1 = .error failure →
        appended.2.tables = service.deployment.tables := by
  intro appended
  obtain ⟨now, shown⟩ := Option.isSome_iff_exists.mp calm.shown
  have sound := healthy.sound
  have honest := Conditions.strikes_of_faultless calm.faultless .hasherStuck
  have stays := Deployment.append_sound healthy.declared honest appenderName commitment sound
  have comes := Appender.append_of_faultless healthy.declared calm.faultless shown healthy.entered
    healthy.runs sound.tables.consistent (sound.knows appenderName) service.deployment.clock commitment
  have unrefused := Setup.decision_unrefused_iff service.setup conditions service.deployment.clock
    service.deployment.tables commitment now
  have named := Deployment.appender_append service.setup conditions service.deployment appenderName
    commitment
  -- A decision changes nothing of an appender but its tree.
  have healthyAfter (universal : appended.2.tables.InUniversalTime)
      (tree : Option (Tree.State Bytes))
      (kept : appended.2.appender appenderName = { service.appender with tree }) :
      Healthy { service with deployment := appended.2 } := by
    refine ⟨healthy.declared, stays, universal, ?_, ?_⟩
    · rw [appender, kept]
      exact healthy.entered
    · rw [appender, kept]
      exact healthy.runs
  cases decided : service.setup.decision conditions service.deployment.clock
      service.deployment.tables commitment now with
  | error failure =>
      rw [decided] at comes unrefused
      obtain ⟨failed, tables, unchanged⟩ := comes
      have result : appended.1 = .error failure := failed
      have same : appended.2.tables = service.deployment.tables := tables
      have universal : appended.2.tables.InUniversalTime := same ▸ healthy.universal
      rw [result]
      exact ⟨unrefused, healthyAfter universal _ (named.trans unchanged), fun _ _ => same⟩
  | ok checkpoint =>
      rw [decided] at comes unrefused
      obtain ⟨committed, tables, grown⟩ := comes
      have result : appended.1 = .ok checkpoint := committed
      have extended : appended.2.tables =
          service.deployment.tables.extended service.setup.shape commitment now := tables
      have universal : appended.2.tables.InUniversalTime :=
        extended ▸ healthy.universal.extended commitment now
      rw [result]
      exact ⟨unrefused, healthyAfter universal _ (named.trans grown), fun _ failed => by cases failed⟩

/-- A confirmation comes to a refusal or to the checkpoint, unless its time has no form in universal time.  It
leaves the service healthy, and a failed one leaves the tables as they are. -/
theorem confirm_decides (healthy : service.Healthy) (calm : conditions.Healthy) (root : Bytes)
    (minedAt : Timestamp) :
    let confirmed := service.deployment.confirm service.setup conditions [] root minedAt
    ((∃ failure, confirmed.1 = .error failure ∧ failure.refusal? = none) ↔
        minedAt.toUniversal? = none) ∧
      Healthy { service with deployment := confirmed.2 } ∧
      ∀ failure, confirmed.1 = .error failure →
        confirmed.2.tables = service.deployment.tables := by
  intro confirmed
  have sound := healthy.sound
  have comes := Confirmation.confirm_of_faultless calm.faultless sound.tables healthy.universal root
    minedAt
  have stays : confirmed.2.Sound service.setup.shape :=
    Deployment.confirm_sound healthy.declared [] (fun _ member => by cases member) root minedAt sound
  rw [← healthy.declared] at comes
  have healthyAfter (universal : confirmed.2.tables.InUniversalTime) :
      Healthy { service with deployment := confirmed.2 } :=
    ⟨healthy.declared, stays, universal, healthy.entered, healthy.runs⟩
  cases converted : minedAt.toUniversal? with
  | none =>
      rw [converted] at comes
      obtain ⟨result, tables⟩ := comes
      have same : confirmed.2.tables = service.deployment.tables := tables
      exact ⟨⟨fun _ => rfl, fun _ => ⟨_, result, rfl⟩⟩, healthyAfter (same ▸ healthy.universal),
        fun _ _ => same⟩
  | some given =>
      rw [converted] at comes
      rcases comes with ⟨⟨refusal, refused⟩, tables⟩ | ⟨checkpoint, accepted, tables⟩
      · have result : confirmed.1 = .error (.refused refusal) := refused
        have same : confirmed.2.tables = service.deployment.tables := tables
        refine ⟨⟨?_, fun absent => by cases absent⟩, healthyAfter (same ▸ healthy.universal),
          fun _ _ => same⟩
        rintro ⟨failure, failed, unrefused⟩
        rw [result] at failed
        cases failed
        cases unrefused
      · have result : confirmed.1 = .ok checkpoint := accepted
        have universal : confirmed.2.tables.InUniversalTime := by
          rcases tables with same | ⟨pending, _, _, replaced⟩
          · have same : confirmed.2.tables = service.deployment.tables := same
            exact same ▸ healthy.universal
          · have replaced : confirmed.2.tables =
                service.deployment.tables.replacing (pending.confirmed given) := replaced
            exact replaced ▸ healthy.universal.replacing pending given
        refine ⟨⟨?_, fun absent => by cases absent⟩, healthyAfter universal, ?_⟩
        · rintro ⟨failure, failed, _⟩
          rw [result] at failed
          cases failed
        · intro failure failed
          rw [result] at failed
          cases failed

end Submitting

/-! ## All endpoints -/

end Http.Service

end CommitmentLog
