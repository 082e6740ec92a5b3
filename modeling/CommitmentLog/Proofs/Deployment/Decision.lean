import CommitmentLog.Proofs.Appender.Verdict
import CommitmentLog.Proofs.Deployment.Growth

/-!
# When an append succeeds

In every deployment that a run can reach, an append that nothing disturbs comes to an end that is known
beforehand.  A stopped appender refuses.  A full tree refuses.  Padding behind the first commitment is
refused, now and whenever it is tried again, since its root is recorded and stays so.  Every other
commitment is stored with the checkpoint of the next prefix, or the trees over two prefixes contain a
collision.
-/

set_option autoImplicit false

namespace CommitmentLog.Deployment

open Store

variable {conditions : Conditions} {deployment : Deployment}

/-- Behind the first commitment padding is never stored, under whatever conditions it is tried. -/
theorem append_emptyLeaf_refused (setup : Setup) (declared : setup.schema = .declared)
    (honest : conditions.strikes .hasherStuck = false) (sound : deployment.Sound setup.shape)
    (present : 1 ≤ deployment.tables.identities.length) (name : String) :
    let attempt := deployment.append setup conditions name setup.shape.emptyLeaf
    (∃ failure, attempt.1 = .error failure) ∧ attempt.2.tables = deployment.tables := by
  rcases Appender.append_of_sound declared honest deployment.clock setup.shape.emptyLeaf sound.tables
    (sound.knows name) with ⟨failure, refused, same, _⟩ | ⟨_, fresh, _⟩
  · exact ⟨⟨failure, refused⟩, same⟩
  · have recorded := Tables.withRoot?_latest sound.tables.consistent present
    rw [Tables.withRoot?, List.find?_isSome] at recorded
    obtain ⟨checkpoint, member, root⟩ := recorded
    have new := fresh checkpoint member
    rw [setup.shape.rootOver_append_emptyLeaf] at new
    exact absurd (of_decide_eq_true root) new

theorem length_le_of_grows {longer : Deployment}
    (grows : deployment.tables.commitments <+: longer.tables.commitments) :
    deployment.tables.identities.length ≤ longer.tables.identities.length := by
  have shorter := grows.length_le
  rwa [Tables.commitments_length, Tables.commitments_length] at shorter

/-- An append that nothing disturbs succeeds exactly when the appender works, the tree has room, the
commitment is not padding behind others, and no two prefixes collide. -/
theorem append_decided (setup : Setup) (declared : setup.schema = .declared)
    (shallow : setup.shape.depth ≤ 62) (events : List Event) (fair : ∀ event ∈ events, event.Fair)
    (conditions : Conditions) (now : Civil) (name : String) (commitment : Bytes)
    (undisturbed : setup.Undisturbed conditions (run setup events).clock now)
    (free : ((run setup events).appender name).enter setup = .ok ()) :
    let before := run setup events
    let tables := before.tables
    let size := tables.identities.length
    let attempt := before.append setup conditions name commitment
    match (before.appender name).halted with
    | some reason => attempt.1 = .error (.refused (.halted reason)) ∧ attempt.2.tables = tables
    | none =>
        if size = 2 ^ setup.shape.depth then
          attempt.1 = .error (.refused (.treeFull setup.shape.depth)) ∧ attempt.2.tables = tables
        else if 1 ≤ size ∧ commitment = setup.shape.emptyLeaf then
          attempt.1 = .error (.refused (.rootRecorded (setup.shape.rootOver tables.commitments))) ∧
            attempt.2.tables = tables ∧
            ∀ (later : List Event) (timeout : Binary) (conditions : Conditions) (other : String),
              (∀ event ∈ later, event.Fair) → conditions.strikes .hasherStuck = false →
                let reached := later.foldl (after setup) attempt.2
                let repeated := reached.append { setup with timeout } conditions other commitment
                (∃ failure, repeated.1 = .error failure) ∧ repeated.2.tables = reached.tables
        else
          (attempt.1 = .ok (tables.nextCheckpoint setup.shape commitment now) ∧
              attempt.2.tables = tables.extended setup.shape commitment now) ∨
            (attempt.1 = .error
                (.refused (.rootRecorded (setup.shape.rootOver (tables.commitments ++ [commitment])))) ∧
              attempt.2.tables = tables ∧
              ∃ count pairs, 1 ≤ count ∧ count ≤ size ∧
                setup.shape.rootCollision? (tables.commitments.take count)
                  (tables.commitments ++ [commitment]) = some pairs ∧
                setup.shape.Collide pairs.1 pairs.2) := by
  intro before tables size attempt
  have sound : before.Sound setup.shape := run_sound setup declared events fair
  have consistent := sound.tables.consistent
  cases halted : (before.appender name).halted with
  | some reason =>
      have course : (before.appender name).append setup conditions before.clock tables commitment =
          _ := Appender.append_of_halted free halted commitment
      exact ⟨congrArg Appender.Outcome.result course, congrArg Appender.Outcome.tables course⟩
  | none =>
      have course := Appender.append_of_undisturbed declared undisturbed free halted consistent
        (sound.knows name) commitment
      have fits : size ≤ 2 ^ setup.shape.depth := consistent.fits
      simp only
      split
      case isTrue full =>
        rw [Tables.verdict_of_full full] at course
        exact ⟨course.1, course.2.1⟩
      case isFalse notFull =>
        have room : size < setup.shape.capacity := Nat.lt_of_le_of_ne fits notFull
        split
        case isTrue padding =>
          obtain ⟨present, rfl⟩ := padding
          rw [Tables.verdict_of_padding consistent room present] at course
          refine ⟨course.1, course.2.1, ?_⟩
          intro later timeout otherConditions other laterFair honest
          have attempted : attempt.2.Sound setup.shape := append_sound declared
            (Conditions.strikes_of_faultless undisturbed.faultless _) name _ sound
          have grows := foldl_after_grows declared later laterFair attempted
          have stays := length_le_of_grows grows
          have unchanged : attempt.2.tables = tables := course.2.1
          have still : 1 ≤ attempt.2.tables.identities.length := by
            rw [unchanged]
            exact present
          have reachedSound := foldl_after_sound declared later laterFair attempted
          exact append_emptyLeaf_refused { setup with timeout } declared honest reachedSound
            (Nat.le_trans still stays) other
        case isFalse other =>
          rcases Tables.verdict_of_other now shallow consistent room other with
            recorded | ⟨refused, collision⟩
          · rw [recorded] at course
            exact Or.inl ⟨course.1, course.2.1⟩
          · rw [refused] at course
            exact Or.inr ⟨course.1, course.2.1, collision⟩

def oneStored : List Event :=
  [{ timeout := .ofInt 10, conditions := {}, operation := .append "first" [1] },
   { timeout := .ofInt 10, conditions := { faults := [.commit] }, operation := .append "second" [2] }]

/-- Behind the one commitment there is still a leaf, but padding does not get it. -/
theorem append_decided_oneStored :
    let before := run Appender.twoLeaves oneStored
    (before.appender "second").enter Appender.twoLeaves = .ok () ∧
      (before.append Appender.twoLeaves {} "second" [0]).1 =
        .error (.refused (.rootRecorded [1, 0])) := by
  intro before
  have free : (before.appender "second").enter Appender.twoLeaves = .ok () := by decide +kernel
  have undisturbed : Appender.twoLeaves.Undisturbed {} before.clock
      { year := 2026, month := 1, day := 1 } := by
    decide +kernel
  have decided := append_decided Appender.twoLeaves rfl (by decide) oneStored (by decide) {}
    { year := 2026, month := 1, day := 1 } "second" [0] undisturbed free
  have running : ((run Appender.twoLeaves oneStored).appender "second").halted = none := by
    decide +kernel
  simp only [running] at decided
  rw [if_neg (by decide +kernel), if_pos (by decide +kernel)] at decided
  have root : Appender.twoLeaves.shape.rootOver before.tables.commitments = [1, 0] := by
    decide +kernel
  exact ⟨free, decided.1.trans (by rw [root])⟩

end CommitmentLog.Deployment
