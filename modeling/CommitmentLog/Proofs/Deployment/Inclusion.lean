import CommitmentLog.Proofs.Appender.Inclusion
import CommitmentLog.Proofs.Deployment.Interchange
import Mathlib.Data.List.Infix

/-!
# Inclusion proofs of a run

After any run a commitment that was stored at some time has its inclusion proof, and one that was never stored
has none.  A store that was tampered with may refuse, but it gives no false proof either.
-/

set_option autoImplicit false

namespace CommitmentLog.Deployment

open Store

theorem run_grows (setup : Setup) (declared : setup.schema = .declared) {earlier events : List Event}
    (fair : ∀ event ∈ events, event.Fair) (begins : earlier <+: events) :
    (run setup earlier).tables.commitments <+: (run setup events).tables.commitments := by
  obtain ⟨later, rfl⟩ := begins
  have sound := run_sound setup declared earlier fun event member =>
    fair event (List.mem_append_left later member)
  have grows := foldl_after_grows declared later
    (fun event member => fair event (List.mem_append_right earlier member)) sound
  rwa [run, run, List.foldl_append]

/-- After a run an inclusion proof is given exactly for the commitments that have been stored, and its status
tells whether a mined checkpoint covers them.  On any lawful tables that fit, an inclusion proof that is given
names the lowest leaf of the commitment and the latest root, and is valid. -/
theorem inclusion_complete_and_sound (setup : Setup) (declared : setup.schema = .declared) :
    (∀ events : List Event, (∀ event ∈ events, event.Fair) →
      ∀ (conditions : Conditions) (commitment : Bytes),
        let tables := (run setup events).tables
        let answer := setup.inclusionProof conditions tables commitment
        ((∀ earlier, earlier <+: events → commitment ∉ (run setup earlier).tables.commitments) →
            answer = .error (.refused (.unknownCommitment commitment))) ∧
          ∀ earlier, earlier <+: events → commitment ∈ (run setup earlier).tables.commitments →
            conditions.strikes .leaves = false →
              ∃ inclusion, answer = .ok inclusion ∧
                inclusion.Attests setup.shape tables commitment ∧ inclusion.TellsStatus tables) ∧
      ∀ tables : Tables, tables.Lawful → tables.identities.length ≤ 2 ^ setup.shape.depth →
        ∀ (conditions : Conditions) (commitment : Bytes) (inclusion : Inclusion),
          setup.inclusionProof conditions tables commitment = .ok inclusion →
            inclusion.Attests setup.shape tables commitment := by
  refine ⟨?_, ?_⟩
  · intro events fair conditions commitment tables answer
    have sound : tables.Sound setup.shape := (run_sound setup declared events fair).tables
    refine ⟨?_, ?_⟩
    · intro never
      exact Setup.inclusionProof_of_not_mem setup conditions (never events (List.prefix_refl events))
    · intro earlier begins stored working
      have present : commitment ∈ tables.commitments := (run_grows setup declared fair begins).mem stored
      obtain ⟨inclusion, given⟩ :=
        Setup.inclusionProof_of_mem setup working sound.lawful sound.consistent present
      exact ⟨inclusion, given,
        Setup.attests_of_inclusionProof sound.lawful sound.consistent.fits given,
        Setup.tellsStatus_of_inclusionProof sound.lawful given⟩
  · intro tables lawful fits conditions commitment inclusion given
    exact Setup.attests_of_inclusionProof lawful fits given

def storedTwice : List Event :=
  takingTurns ++ [calm (.append "first" [1]),
    calm (.confirm [] [1, 0, 0, 0] (.ofCivil { year := 2026, month := 3, day := 1 }))]

def cutShort : Tables :=
  let tables := (run fourLeaves storedTwice).tables
  { tables with checkpoints := tables.checkpoints.take 1 }

/-- The first of the two leaves counts, and it is mined; the second commitment is not.  Where the later
checkpoints are gone, the proof is about the one that is left. -/
theorem inclusion_storedTwice :
    (∃ inclusion, fourLeaves.inclusionProof {} (run fourLeaves storedTwice).tables [1] = .ok inclusion ∧
        inclusion.leafIndex = 0 ∧ inclusion.status = .mined ∧ inclusion.valid = true) ∧
      fourLeaves.inclusionProof {} (run fourLeaves storedTwice).tables [3] =
        .error (.refused (.unknownCommitment [3])) ∧
      ∃ inclusion, fourLeaves.inclusionProof {} cutShort [1] = .ok inclusion ∧
        inclusion.proof.verify fourLeaves.shape.parent = true := by
  obtain ⟨afterRun, tampered⟩ := inclusion_complete_and_sound fourLeaves rfl
  refine ⟨?_, ?_, ?_⟩
  · obtain ⟨inclusion, given, attests, tells⟩ := (afterRun storedTwice (by decide) {} [1]).2
      takingTurns (List.prefix_append _ _) (by decide +kernel) rfl
    have leaf : inclusion.leafIndex = 0 := by
      have lowest := attests.first.lowest 0 (by decide +kernel)
      obtain ⟨identity, member, _, standing⟩ := Tables.holds_iff.mp attests.first.stands
      have fromZero : ∀ identity ∈ (run fourLeaves storedTwice).tables.identities,
          0 ≤ identity.leafIndex := by decide +kernel
      have natural := fromZero identity member
      omega
    have covered : ∃ checkpoint ∈ (run fourLeaves storedTwice).tables.checkpoints,
        checkpoint.status = .mined ∧ 0 < checkpoint.identityCount := by decide +kernel
    exact ⟨inclusion, given, leaf, tells.mpr (by rwa [leaf]), attests.valid⟩
  · have never : ∀ earlier ∈ storedTwice.inits,
        [3] ∉ (run fourLeaves earlier).tables.commitments := by decide +kernel
    apply (afterRun storedTwice (by decide) {} [3]).1
    intro earlier begins
    exact never earlier ((List.mem_inits _ _).mpr begins)
  · have answered : (fourLeaves.inclusionProof {} cutShort [1]).toOption.isSome := by decide +kernel
    cases given : fourLeaves.inclusionProof {} cutShort [1] with
    | error failure => simp [given, Except.toOption] at answered
    | ok inclusion =>
        have attests := tampered cutShort (by decide +kernel) (by decide +kernel) {} [1] inclusion given
        exact ⟨inclusion, rfl, attests.leads⟩

end CommitmentLog.Deployment
