import CommitmentLog.Proofs.Appender.Verdict
import CommitmentLog.Proofs.Deployment.Growth

/-!
# Appenders are interchangeable

What an appender keeps saves it a reading and decides nothing.  An append that nothing disturbs comes to the
same result and the same tables through every appender in working order, whether its tree is current, stale
or forgotten.  So the commitments that are asked for, in their order, fix the ledger and the roots of its
checkpoints: which appender takes which of them makes no difference, nor does what else happens in between.
-/

set_option autoImplicit false

namespace CommitmentLog

open Store

/-! ## The ledger after one more commitment -/

/-- The commitments after one more has been asked for.  It is taken if the tree has room, no prefix has its
root, and the number of identities can be stored. -/
def Tree.Shape.ledgerAfter (shape : Tree.Shape Bytes) (commitments : List Bytes) (commitment : Bytes) :
    List Bytes :=
  let root := shape.rootOver (commitments ++ [commitment])
  if commitments.length < shape.capacity ∧
      (∀ position < commitments.length,
        shape.rootOver (commitments.take (position + 1)) ≠ root) ∧
      Statement.fits (commitments.length + 1) = true then
    commitments ++ [commitment]
  else commitments

namespace Tables

variable {shape : Tree.Shape Bytes} {tables : Tables}

theorem verdict_ledgerAfter (consistent : tables.Consistent shape) (commitment : Bytes) (now : Civil) :
    shape.ledgerAfter tables.commitments commitment =
      match tables.verdict shape commitment now with
      | .ok _ => (tables.extended shape commitment now).commitments
      | .error _ => tables.commitments := by
  have recorded := withRoot?_isSome_iff consistent
    (shape.rootOver (tables.commitments ++ [commitment]))
  rw [Tree.Shape.ledgerAfter, verdict, commitments_extended, commitments_length]
  rw [commitments_length] at recorded
  split
  case isTrue taken =>
    obtain ⟨room, fresh, fits⟩ := taken
    have new : ¬(tables.withRoot? (shape.rootOver (tables.commitments ++ [commitment]))).isSome := by
      rw [recorded]
      intro found
      obtain ⟨position, inside, same⟩ := found
      exact fresh position inside same
    rw [if_neg (Nat.not_le_of_lt room), if_neg new, if_pos fits]
  case isFalse refused =>
    by_cases full : shape.capacity ≤ tables.identities.length
    · rw [if_pos full]
    · rw [if_neg full]
      by_cases old : (tables.withRoot? (shape.rootOver (tables.commitments ++ [commitment]))).isSome
      · rw [if_pos old]
      · have large : ¬Statement.fits (tables.identities.length + 1) = true := by
          intro fits
          rw [recorded] at old
          refine refused ⟨Nat.lt_of_not_le full, ?_, fits⟩
          intro position inside same
          exact old ⟨position, inside, same⟩
        rw [if_neg old, if_neg large]

end Tables

def Operation.commitment? : Operation → Option Bytes
  | .append _ commitment => some commitment
  | _ => none

namespace Deployment

variable {setup : Setup} {conditions : Conditions} {deployment : Deployment} {name : String}
  {now : Civil}

/-! ## One append -/

/-- An appender is in working order and its lock is free, and nothing would disturb an append by it. -/
structure Ready (setup : Setup) (deployment : Deployment) (conditions : Conditions) (name : String)
    (now : Civil) : Prop where
  free : (deployment.appender name).enter setup = .ok ()
  running : (deployment.appender name).halted = none
  undisturbed : setup.Undisturbed conditions deployment.clock now

instance (setup : Setup) (deployment : Deployment) (conditions : Conditions) (name : String)
    (now : Civil) : Decidable (deployment.Ready setup conditions name now) :=
  decidable_of_iff (_ ∧ _ ∧ _)
    ⟨fun ⟨free, running, undisturbed⟩ => ⟨free, running, undisturbed⟩,
      fun ⟨free, running, undisturbed⟩ => ⟨free, running, undisturbed⟩⟩

theorem append_of_ready (setup : Setup) (declared : setup.schema = .declared)
    (sound : deployment.Sound setup.shape) (ready : deployment.Ready setup conditions name now)
    (commitment : Bytes) :
    let attempt := deployment.append setup conditions name commitment
    match deployment.tables.verdict setup.shape commitment now with
    | .error failure => attempt.1 = .error failure ∧ attempt.2.tables = deployment.tables
    | .ok checkpoint =>
        attempt.1 = .ok checkpoint ∧
          attempt.2.tables = deployment.tables.extended setup.shape commitment now ∧
          (attempt.2.appender name).tree =
            some (setup.shape.stateOver attempt.2.tables.commitments) := by
  intro attempt
  have kept := appender_append setup conditions deployment name commitment
  have course := Appender.append_of_undisturbed declared ready.undisturbed ready.free ready.running
    sound.tables.consistent (sound.knows name) commitment
  cases decided : deployment.tables.verdict setup.shape commitment now with
  | error failure =>
      rw [decided] at course
      exact ⟨course.1, course.2.1⟩
  | ok checkpoint =>
      rw [decided] at course
      obtain ⟨result, tables, appender⟩ := course
      have stored : attempt.2.tables = deployment.tables.extended setup.shape commitment now := tables
      refine ⟨result, stored, ?_⟩
      rw [stored, Tables.commitments_extended]
      exact (congrArg Appender.tree kept).trans (congrArg Appender.tree appender)

theorem commitments_of_ready (setup : Setup) (declared : setup.schema = .declared)
    (sound : deployment.Sound setup.shape) (ready : deployment.Ready setup conditions name now)
    (commitment : Bytes) :
    (deployment.append setup conditions name commitment).2.tables.commitments =
      setup.shape.ledgerAfter deployment.tables.commitments commitment := by
  have course := append_of_ready setup declared sound ready commitment
  rw [Tables.verdict_ledgerAfter sound.tables.consistent commitment now]
  cases decided : deployment.tables.verdict setup.shape commitment now with
  | error failure =>
      rw [decided] at course
      rw [course.2]
  | ok checkpoint =>
      rw [decided] at course
      rw [course.2.1]

theorem rebuild_of_ready (setup : Setup) (declared : setup.schema = .declared)
    (sound : deployment.Sound setup.shape) (ready : deployment.Ready setup conditions name now)
    (commitment : Bytes) (checkpoint : Checkpoint) :
    let attempt := deployment.append setup conditions name commitment
    attempt.1 = .ok checkpoint → ∃ tree, (attempt.2.appender name).tree = some tree ∧
      setup.shape.rebuild attempt.2.tables.commitments = .ok tree := by
  intro attempt stored
  have course := append_of_ready setup declared sound ready commitment
  have honest := Conditions.strikes_of_faultless ready.undisturbed.faultless .hasherStuck
  have grown : attempt.2.Sound setup.shape := append_sound declared honest name commitment sound
  have fits := grown.tables.consistent.fits
  have rebuilt := setup.shape.rebuild_eq attempt.2.tables.commitments
  rw [Tables.commitments_length, if_pos fits] at rebuilt
  cases decided : deployment.tables.verdict setup.shape commitment now with
  | error failure =>
      rw [decided] at course
      have refused : attempt.1 = .error failure := course.1
      rw [refused] at stored
      cases stored
  | ok recorded =>
      rw [decided] at course
      exact ⟨_, course.2.2, rebuilt⟩

theorem append_eq_of_ready (setup : Setup) (declared : setup.schema = .declared)
    (sound : deployment.Sound setup.shape) {first second : String}
    {firstTimeout secondTimeout : Binary} {firstConditions secondConditions : Conditions}
    (firstReady : deployment.Ready { setup with timeout := firstTimeout } firstConditions first now)
    (secondReady :
      deployment.Ready { setup with timeout := secondTimeout } secondConditions second now)
    (commitment : Bytes) :
    let one := deployment.append { setup with timeout := firstTimeout } firstConditions first commitment
    let other := deployment.append { setup with timeout := secondTimeout } secondConditions second
      commitment
    one.1 = other.1 ∧ one.2.tables = other.2.tables := by
  intro one other
  have firstCourse := append_of_ready { setup with timeout := firstTimeout } declared sound firstReady
    commitment
  have secondCourse := append_of_ready { setup with timeout := secondTimeout } declared sound
    secondReady commitment
  cases decided : deployment.tables.verdict setup.shape commitment now with
  | error failure =>
      simp only [decided] at firstCourse secondCourse
      exact ⟨firstCourse.1.trans secondCourse.1.symm, firstCourse.2.trans secondCourse.2.symm⟩
  | ok checkpoint =>
      simp only [decided] at firstCourse secondCourse
      exact ⟨firstCourse.1.trans secondCourse.1.symm,
        firstCourse.2.1.trans secondCourse.2.1.symm⟩

/-! ## Orderly runs -/

/-- An event is orderly if it appends one commitment through an appender that is ready, or does not append
at all. -/
def Orderly (setup : Setup) (deployment : Deployment) (event : Event) : Prop :=
  match event.operation with
  | .append name _ =>
      ∃ now, deployment.Ready { setup with timeout := event.timeout } event.conditions name now
  | .appendAll _ _ => False
  | _ => event.Fair

def OrderlyRun (setup : Setup) : Deployment → List Event → Prop
  | _, [] => True
  | deployment, event :: rest =>
      deployment.Orderly setup event ∧ OrderlyRun setup (after setup deployment event) rest

theorem Orderly.fair {event : Event} (orderly : deployment.Orderly setup event) : event.Fair := by
  obtain ⟨timeout, conditions, operation⟩ := event
  cases operation with
  | append name commitment =>
      obtain ⟨now, ready⟩ := orderly
      exact ⟨Conditions.strikes_of_faultless ready.undisturbed.faultless _, trivial⟩
  | appendAll name commitments => exact absurd orderly id
  | _ => exact orderly

theorem commitments_of_orderly (declared : setup.schema = .declared)
    (sound : deployment.Sound setup.shape) {event : Event}
    (orderly : deployment.Orderly setup event) :
    (after setup deployment event).tables.commitments =
      event.operation.commitment?.toList.foldl setup.shape.ledgerAfter
        deployment.tables.commitments := by
  obtain ⟨timeout, conditions, operation⟩ := event
  cases operation with
  | append name commitment =>
      obtain ⟨now, ready⟩ := orderly
      exact commitments_of_ready { setup with timeout } declared sound ready commitment
  | appendAll name commitments => exact absurd orderly id
  | _ =>
      exact congrArg (List.map Identity.commitment) (step_identities { setup with timeout } declared _
        id orderly.operation sound)

theorem commitments_of_orderlyRun (declared : setup.schema = .declared) (events : List Event)
    (sound : deployment.Sound setup.shape) (orderly : OrderlyRun setup deployment events) :
    (events.foldl (after setup) deployment).tables.commitments =
      (events.filterMap (·.operation.commitment?)).foldl setup.shape.ledgerAfter
        deployment.tables.commitments := by
  induction events generalizing deployment with
  | nil => rfl
  | cons event rest inductionHypothesis =>
      obtain ⟨first, later⟩ := orderly
      have next := after_sound declared event first.fair sound
      have one := commitments_of_orderly declared sound first
      rw [List.foldl_cons, inductionHypothesis next later, one]
      cases wanted : event.operation.commitment? <;> simp [wanted]

theorem OrderlyRun.fair {events : List Event} (orderly : OrderlyRun setup deployment events) :
    ∀ event ∈ events, event.Fair := by
  induction events generalizing deployment with
  | nil => simp
  | cons first rest inductionHypothesis =>
      obtain ⟨orderly, later⟩ := orderly
      intro event member
      rcases List.mem_cons.mp member with rfl | member
      · exact orderly.fair
      · exact inductionHypothesis later event member

theorem OrderlyRun.sound (declared : setup.schema = .declared) {events : List Event}
    (orderly : OrderlyRun setup deployment events) (sound : deployment.Sound setup.shape) :
    (events.foldl (after setup) deployment).Sound setup.shape :=
  foldl_after_sound declared events orderly.fair sound

/-- Through whichever appender in working order a commitment is appended, the result and the tables are the
same, and the appender then keeps the tree over all that is stored.  Two orderly runs that ask for the same
commitments in the same order leave the same identities and record the same roots. -/
theorem append_through_any (setup : Setup) (declared : setup.schema = .declared) (events : List Event)
    (fair : ∀ event ∈ events, event.Fair) :
    let deployment := run setup events
    (∀ (first second : String) (firstTimeout secondTimeout : Binary)
        (firstConditions secondConditions : Conditions) (now : Civil) (commitment : Bytes),
      deployment.Ready { setup with timeout := firstTimeout } firstConditions first now →
      deployment.Ready { setup with timeout := secondTimeout } secondConditions second now →
        let one := deployment.append { setup with timeout := firstTimeout } firstConditions first
          commitment
        let other := deployment.append { setup with timeout := secondTimeout } secondConditions second
          commitment
        (one.1 = other.1 ∧ one.2.tables = other.2.tables) ∧
          ∀ checkpoint, one.1 = .ok checkpoint → ∃ tree, (one.2.appender first).tree = some tree ∧
            setup.shape.rebuild one.2.tables.commitments = .ok tree) ∧
      ∀ first second : List Event, OrderlyRun setup deployment first →
        OrderlyRun setup deployment second →
        first.filterMap (·.operation.commitment?) = second.filterMap (·.operation.commitment?) →
          let one := (first.foldl (after setup) deployment).tables
          let other := (second.foldl (after setup) deployment).tables
          one.identities = other.identities ∧
            one.checkpoints.map (·.claim) = other.checkpoints.map (·.claim) := by
  intro deployment
  have sound : deployment.Sound setup.shape := run_sound setup declared events fair
  refine ⟨?_, ?_⟩
  · intro first second firstTimeout secondTimeout firstConditions secondConditions now commitment
      firstReady secondReady
    exact ⟨append_eq_of_ready setup declared sound firstReady secondReady commitment,
      rebuild_of_ready { setup with timeout := firstTimeout } declared sound firstReady commitment⟩
  · intro first second firstOrderly secondOrderly sameAsked
    have firstConsistent := (firstOrderly.sound declared sound).tables.consistent
    have secondConsistent := (secondOrderly.sound declared sound).tables.consistent
    have firstTaken := commitments_of_orderlyRun declared first sound firstOrderly
    have secondTaken := commitments_of_orderlyRun declared second sound secondOrderly
    have same := firstTaken.trans ((congrArg _ sameAsked).trans secondTaken.symm)
    exact ⟨Tables.identities_eq_of_commitments firstConsistent.dense secondConsistent.dense same,
      Tables.claims_eq_of_commitments firstConsistent secondConsistent same⟩

def fourLeaves : Setup :=
  { shape := { depth := 2, emptyLeaf := [0], parent := fun left right => left ++ right }
    timeout := .ofInt 10 }

def calm (operation : Operation) : Event :=
  { timeout := .ofInt 10, conditions := {}, operation }

/-- Two appenders take turns, so that the tree of the first one is stale. -/
def takingTurns : List Event :=
  [calm (.append "first" [1]), calm (.append "second" [2])]

def restarting : List Event :=
  [calm (.append "first" [3]), calm (.restart "first"), calm (.append "first" [4])]

def takingOver : List Event :=
  [calm (.append "second" [3]), calm (.append "third" [4])]

theorem append_through_any_takingTurns :
    let deployment := run fourLeaves takingTurns
    (deployment.appender "first").tree ≠ (deployment.appender "second").tree ∧
      (deployment.append fourLeaves {} "first" [3]).1 =
        (deployment.append fourLeaves {} "second" [3]).1 ∧
      (run fourLeaves (takingTurns ++ restarting)).tables.identities =
        (run fourLeaves (takingTurns ++ takingOver)).tables.identities := by
  intro deployment
  let now : Civil := { year := 2026, month := 1, day := 1 }
  obtain ⟨same, schedules⟩ := append_through_any fourLeaves rfl takingTurns (by decide)
  have firstReady : deployment.Ready fourLeaves {} "first" now := by decide +kernel
  have secondReady : deployment.Ready fourLeaves {} "second" now := by decide +kernel
  have equal := same "first" "second" (.ofInt 10) (.ofInt 10) {} {} now [3] firstReady secondReady
  have restarted : OrderlyRun fourLeaves deployment restarting :=
    ⟨⟨now, firstReady⟩, ⟨rfl, trivial⟩, ⟨now, by decide +kernel⟩, trivial⟩
  have takenOver : OrderlyRun fourLeaves deployment takingOver :=
    ⟨⟨now, secondReady⟩, ⟨now, by decide +kernel⟩, trivial⟩
  have sameTables := schedules restarting takingOver restarted takenOver rfl
  refine ⟨by decide +kernel, equal.1.1, ?_⟩
  rw [run, run, List.foldl_append, List.foldl_append]
  exact sameTables.1

end Deployment

end CommitmentLog
