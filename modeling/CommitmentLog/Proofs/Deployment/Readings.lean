import CommitmentLog.Proofs.Appender.Skew
import CommitmentLog.Proofs.Deployment.Inclusion

/-!
# Readings while others write

Others may append and confirm between any two readings of an operation.  An inclusion proof is given all the
same, because it reads the leaves after the checkpoint and the ledger only grows: the commitment stays at its
leaf, and the leaves that the checkpoint covers are the ones it was recorded over.  A recovery and an audit
read the leaves first.  A checkpoint that came later covers a leaf that they have not seen, so they stop an
appender whose store is in order.
-/

set_option autoImplicit false

namespace CommitmentLog

open Store

/-- What an inclusion proof says when each of its four readings sees tables of its own. -/
structure Inclusion.AttestsOver (shape : Tree.Shape Bytes) (findIn latestIn leavesIn minedIn : Tables)
    (commitment : Bytes) (inclusion : Inclusion) : Prop where
  /-- Whichever tables one asks, the leaf is the lowest one of the commitment. -/
  first : ∀ tables ∈ [findIn, latestIn, leavesIn, minedIn],
    tables.StandsFirst commitment inclusion.leafIndex
  /-- The proof is over the leaves that the latest checkpoint covers, and it leads to its root. -/
  latest : ∃ checkpoint, latestIn.Latest checkpoint ∧ inclusion.root = checkpoint.root ∧
    leavesIn.commitments.take checkpoint.identityCount.toNat = latestIn.commitments ∧
    shape.prove (leavesIn.commitments.take checkpoint.identityCount.toNat) inclusion.leafIndex =
      .ok inclusion.proof
  leaf : inclusion.proof.leaf = commitment
  root : inclusion.proof.root = inclusion.root
  leads : inclusion.proof.verify shape.parent = true
  valid : inclusion.valid = true
  status : inclusion.TellsStatus minedIn

namespace Setup

variable {setup : Setup} {conditions : Conditions} {findIn latestIn leavesIn minedIn : Tables}
  {commitment : Bytes} {inclusion : Inclusion}

theorem attestsOver_of_inclusionProofOver (latestGrows : findIn.Grows setup.shape latestIn)
    (leavesGrow : latestIn.Grows setup.shape leavesIn) (minedGrows : leavesIn.Grows setup.shape minedIn)
    (present : commitment ∈ findIn.commitments)
    (given : setup.inclusionProofOver conditions findIn latestIn leavesIn minedIn commitment =
      .ok inclusion) :
    inclusion.AttestsOver setup.shape findIn latestIn leavesIn minedIn commitment := by
  obtain ⟨latest, found, recorded, _, proved, agrees, root, _, valid⟩ := inclusionProofOver_ok given
  have toLeaves := latestGrows.trans leavesGrow
  have standsInLatest := latestGrows.standsFirst found
  have consistent := latestGrows.after.consistent
  -- The latest checkpoint covers all identities that were there when it was read.
  have nonempty := List.length_pos_of_mem (latestGrows.commitments.mem present)
  rw [Tables.commitments_length] at nonempty
  obtain ⟨same, isLatest, counted, _⟩ := Tables.latest?_of_consistent consistent nonempty
  rw [recorded] at isLatest
  cases isLatest
  have covers := covered_of_grown leavesGrow.commitments
  rw [← counted] at covers
  have taken : leavesIn.commitments.take latest.identityCount.toNat = latestIn.commitments := by
    rwa [covered, if_neg (by omega)] at covers
  rw [covers] at proved
  have fits : latestIn.commitments.length ≤ 2 ^ setup.shape.depth := by
    rw [Tables.commitments_length]
    exact consistent.fits
  have leads := setup.shape.verify_of_prove fits proved
  obtain ⟨position, natural, here, _⟩ := setup.shape.prove_ok proved
  have leaf : inclusion.proof.leaf = commitment := by
    have stands := consistent.dense.commitment_of_holds (natural ▸ standsInLatest.stands)
    exact Option.some.inj (here.symm.trans stands)
  refine ⟨?_, ⟨latest, ?_, root, taken, taken ▸ proved⟩, leaf, agrees.trans root.symm, leads,
    valid.trans leads, tellsStatus_of_inclusionProof minedGrows.after.lawful given⟩
  · simp only [List.forall_mem_cons, List.not_mem_nil, false_implies, implies_true, and_true]
    exact ⟨Ledger.standsFirst_of_find latestGrows.before.lawful found, standsInLatest,
      toLeaves.standsFirst found, (toLeaves.trans minedGrows).standsFirst found⟩
  · exact Tables.latest_of_latest? latestGrows.after.lawful recorded

end Setup

namespace Deployment

theorem run_growsTo (setup : Setup) (declared : setup.schema = .declared) {earlier events : List Event}
    (fair : ∀ event ∈ events, event.Fair) (begins : earlier <+: events) :
    (run setup earlier).tables.Grows setup.shape (run setup events).tables :=
  ⟨(run_sound setup declared earlier fun event member => fair event (begins.mem member)).tables,
    (run_sound setup declared events fair).tables, run_grows setup declared fair begins⟩

/-- However the run goes on between the readings, a commitment that the first reading finds has its inclusion
proof, and it is right for the tables of each of the readings. -/
theorem inclusion_amid_appends (setup : Setup) (declared : setup.schema = .declared)
    (atFind atLatest atLeaves atMined : List Event) (fair : ∀ event ∈ atMined, event.Fair)
    (latestLater : atFind <+: atLatest) (leavesLater : atLatest <+: atLeaves)
    (minedLater : atLeaves <+: atMined) (conditions : Conditions)
    (working : conditions.strikes .leaves = false) (commitment : Bytes)
    (stored : commitment ∈ (run setup atFind).tables.commitments) :
    let findIn := (run setup atFind).tables
    let latestIn := (run setup atLatest).tables
    let leavesIn := (run setup atLeaves).tables
    let minedIn := (run setup atMined).tables
    ∃ inclusion,
      setup.inclusionProofOver conditions findIn latestIn leavesIn minedIn commitment = .ok inclusion ∧
        inclusion.AttestsOver setup.shape findIn latestIn leavesIn minedIn commitment := by
  intro findIn latestIn leavesIn minedIn
  have fairAtLeaves : ∀ event ∈ atLeaves, event.Fair := fun event member =>
    fair event (minedLater.mem member)
  have fairAtLatest : ∀ event ∈ atLatest, event.Fair := fun event member =>
    fairAtLeaves event (leavesLater.mem member)
  have latestGrows : findIn.Grows setup.shape latestIn :=
    run_growsTo setup declared fairAtLatest latestLater
  have leavesGrow : latestIn.Grows setup.shape leavesIn :=
    run_growsTo setup declared fairAtLeaves leavesLater
  have minedGrows : leavesIn.Grows setup.shape minedIn := run_growsTo setup declared fair minedLater
  obtain ⟨inclusion, given⟩ := Setup.inclusionProofOver_of_mem setup working minedIn
    latestGrows.before.consistent.dense latestGrows.after.lawful latestGrows.after.consistent
    leavesGrow.after.consistent.dense latestGrows.commitments leavesGrow.commitments stored
  exact ⟨inclusion, given,
    Setup.attestsOver_of_inclusionProofOver latestGrows leavesGrow minedGrows stored given⟩

/-- Between the readings a second commitment is appended, then the first one once more, and then the first
checkpoint is confirmed.  The proof is about the two leaves of the second checkpoint. -/
theorem inclusion_amid_appends_storedTwice :
    let after (count : Nat) : Tables := (run fourLeaves (storedTwice.take count)).tables
    ∃ inclusion,
      fourLeaves.inclusionProofOver {} (after 1) (after 2) (after 3) (after 4) [1] = .ok inclusion ∧
        inclusion.root = [1, 2, 0, 0] ∧ inclusion.status = .mined ∧ inclusion.valid = true := by
  intro after
  have steps {early late : Nat} (before : early ≤ late) :
      storedTwice.take early <+: storedTwice.take late := List.take_prefix_take_left before
  obtain ⟨inclusion, given, attests⟩ := inclusion_amid_appends fourLeaves rfl (storedTwice.take 1)
    (storedTwice.take 2) (storedTwice.take 3) (storedTwice.take 4) (by decide) (steps (by decide))
    (steps (by decide)) (steps (by decide)) {} rfl [1] (by decide +kernel)
  obtain ⟨latest, isLatest, root, _⟩ := attests.latest
  have recorded : (after 2).latest?.map (·.root) = some [1, 2, 0, 0] := by decide +kernel
  rw [(Tables.latest?_eq_some_iff (by decide +kernel) latest).mpr isLatest] at recorded
  have lowest := (attests.first (after 4) (by simp [after])).lowest 0 (by decide +kernel)
  have mined : ∃ checkpoint ∈ (after 4).checkpoints,
      checkpoint.status = .mined ∧ 0 < checkpoint.identityCount := by decide +kernel
  obtain ⟨checkpoint, member, isMined, behind⟩ := mined
  have status := attests.status.mpr ⟨checkpoint, member, isMined, by omega⟩
  exact ⟨inclusion, given, root.trans (Option.some.inj recorded), status, attests.valid⟩

/-! ## Recovery and audit -/

/-- If no append comes between the readings, a recovery and an audit find the store in order.  If one does,
both stop the appender, and so does every append that loads its tree over these readings. -/
theorem growth_between_readings_halts (setup : Setup) (declared : setup.schema = .declared)
    (atLeaves atLatest : List Event) (fair : ∀ event ∈ atLatest, event.Fair)
    (latestLater : atLeaves <+: atLatest) (conditions : Conditions)
    (reads : conditions.strikes .leaves = false) (works : conditions.HasherWorks) (appender : Appender)
    (free : appender.enter setup = .ok ()) (running : appender.halted = none) :
    let leavesIn := (run setup atLeaves).tables
    let latestIn := (run setup atLatest).tables
    let seen := leavesIn.identities.length
    let covered := latestIn.identities.length
    let recovery := appender.recoverOver setup conditions leavesIn latestIn
    let audit := appender.auditOver setup conditions leavesIn latestIn
    (seen = covered →
        let tree := setup.shape.stateOver leavesIn.commitments
        let report : AuditReport :=
          { identities := covered, checkpoints := covered
            latestRoot := (latestIn.ofPrefix? covered).map (·.root) }
        recovery = (.ok tree, { appender with tree := some tree }) ∧ audit = (.ok report, appender)) ∧
      (seen < covered →
        let unequal : Refusal := .countMismatch covered seen
        let beyond : Refusal := .beyondLedger (seen + 1 : Nat)
        unequal.category = .integrityViolation ∧ beyond.category = .integrityViolation ∧
          recovery = (.error (.refused unequal), appender.stoppedBy unequal) ∧
          audit = (.error (.refused beyond), appender.stoppedBy beyond) ∧
          ∀ (sightings : Setup.Sightings) (clock : Binary) (tables : Tables) (commitment : Bytes),
            setup.LoadsOver conditions sightings appender.tree leavesIn latestIn →
              appender.appendOver setup conditions clock sightings tables commitment =
                { result := .error (.refused unequal), appender := appender.stoppedBy unequal, tables
                  clock }) := by
  intro leavesIn latestIn seen covered recovery audit
  have grows : leavesIn.Grows setup.shape latestIn := run_growsTo setup declared fair latestLater
  refine ⟨?_, ?_⟩
  · intro same tree report
    have consistent := grows.after.consistent
    have loaded : setup.loadTreeOver conditions leavesIn latestIn = .ok tree := by
      rw [Setup.loadTreeOver_of_same_length grows reads same,
        Setup.loadTree_of_consistent reads consistent, ← grows.commitments_eq_of_length same]
    refine ⟨?_, ?_⟩
    · simp [recovery, Appender.recoverOver_eq, free, Appender.running, running, loaded]
    · rcases Setup.auditOver_cases setup works reads grows.after.lawful with
        ⟨_, audited⟩ | ⟨inconsistent, _⟩ | ⟨inconsistent, _⟩
      · rw [← Setup.auditOver_of_same_length grows reads same] at audited
        simp only [audit, Appender.auditOver_eq, free, audited, report, covered]
      · exact absurd consistent inconsistent
      · exact absurd consistent inconsistent
  · intro longer unequal beyond
    refine ⟨rfl, rfl, Appender.recoverOver_of_longer grows reads longer free running,
      Appender.auditOver_of_longer grows reads longer free works, ?_⟩
    intro sightings clock tables commitment loads
    exact Appender.appendOver_of_longer grows reads longer free running loads clock tables commitment

/-- A confirmation between the readings changes nothing; an append does. -/
theorem growth_between_readings_halts_storedTwice :
    let after (count : Nat) : Tables := (run fourLeaves (storedTwice.take count)).tables
    (∃ tree, (({} : Appender).recoverOver fourLeaves {} (after 3) (after 4)).1 = .ok tree) ∧
      (({} : Appender).auditOver fourLeaves {} (after 2) (after 3)).1 =
        .error (.refused (.beyondLedger 3)) := by
  intro after
  have steps {early late : Nat} (before : early ≤ late) :
      storedTwice.take early <+: storedTwice.take late := List.take_prefix_take_left before
  have confirmed := growth_between_readings_halts fourLeaves rfl (storedTwice.take 3)
    (storedTwice.take 4) (by decide) (steps (by decide)) {} rfl ⟨rfl, rfl⟩ {} (by decide +kernel) rfl
  have appended := growth_between_readings_halts fourLeaves rfl (storedTwice.take 2)
    (storedTwice.take 3) (by decide) (steps (by decide)) {} rfl ⟨rfl, rfl⟩ {} (by decide +kernel) rfl
  have longer : (after 2).identities.length < (after 3).identities.length := by decide +kernel
  obtain ⟨_, _, _, audited, _⟩ := appended.2 longer
  have counted : (after 2).identities.length = 2 := by decide +kernel
  rw [counted] at audited
  exact ⟨⟨_, congrArg Prod.fst (confirmed.1 (by decide +kernel)).1⟩, congrArg Prod.fst audited⟩

/-- A recovery that goes on after other events have come between its readings. -/
def recoverAmid (setup : Setup) (conditions : Conditions) (name : String) (between : List Event)
    (deployment : Deployment) : Except Failure Answer × Deployment :=
  let later := between.foldl (after setup) deployment
  later.onAppender name (·.recoverOver setup conditions deployment.tables later.tables) .tree

/-- The second appender commits after another one has read the leaves.  The other one stops, although nothing has
been tampered with. -/
theorem recovery_mistakes_growth :
    (∀ event ∈ takingTurns, event.Fair) ∧
      ({} : Appender).recoverOver fourLeaves {} (run fourLeaves (takingTurns.take 1)).tables
          (run fourLeaves takingTurns).tables =
        (.error (.refused (.countMismatch 2 1)),
          { halted := some "latest checkpoint covers 2 identities, ledger holds 1" }) ∧
      let stopped := (run fourLeaves (takingTurns.take 1)).recoverAmid fourLeaves {} "third"
        (takingTurns.drop 1)
      stopped.1 = .error (.refused (.countMismatch 2 1)) ∧
        stopped.2.tables = (run fourLeaves takingTurns).tables ∧
        (stopped.2.appender "third").halted =
          some "latest checkpoint covers 2 identities, ledger holds 1" := by
  decide +kernel

end Deployment

end CommitmentLog
