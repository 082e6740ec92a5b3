import CommitmentLog.Proofs.Appender.Inclusion
import CommitmentLog.Proofs.Deployment.Interchange
import CommitmentLog.Proofs.Session.Run

/-!
# Histories of a store

A history is all that has happened to one store: operations of appenders, which need not even agree on the
tree, confirmations, and sessions that write past the appenders, one after the other and with faults of any
kind.  As long as each of them writes by the rules of appending, recording and confirming, every later point
of the history continues every earlier one.  Whoever asks for an inclusion proof at both points is never told
another leaf, and never that a leaf is pending that was mined.
-/

set_option autoImplicit false

namespace CommitmentLog

open Store

def Operation.Alone : Operation → Prop
  | .confirm script _ _ => script = []
  | _ => True

instance : DecidablePred Operation.Alone := fun operation =>
  match operation with
  | .confirm script _ _ => inferInstanceAs (Decidable (script = []))
  | .append _ _ | .appendAll _ _ | .recover _ | .audit _ | .inclusionProof _ _ | .resetHalt _
  | .hold _ | .release _ | .restart _ | .withStatus _ => inferInstanceAs (Decidable True)

/-- What happens at one time: an operation on a tree of some shape, or a session from its first step to its
last.  What a session has not committed by then is lost. -/
inductive Activity where
  | operation (shape : Tree.Shape Bytes) (event : Event)
  | session (steps : List (Conditions × Session.Operation))

/-- Nobody writes past the rules, or while somebody else is writing. -/
def Activity.Orderly : Activity → Prop
  | .operation _ event => event.operation.Alone
  | .session steps => ∀ step ∈ steps, step.2.Orderly

instance : DecidablePred Activity.Orderly := fun activity =>
  match activity with
  | .operation _ event => inferInstanceAs (Decidable event.operation.Alone)
  | .session steps => inferInstanceAs (Decidable (∀ step ∈ steps, step.2.Orderly))

theorem Appender.append_leadsTo {setup : Setup} (declared : setup.schema = .declared)
    (conditions : Conditions) (clock : Binary) (tables : Tables) (appender : Appender)
    (commitment : Bytes) :
    tables.LeadsTo (appender.append setup conditions clock tables commitment).tables := by
  rcases append_cases setup conditions clock tables appender commitment with
    ⟨_, _, same⟩ | ⟨_, _, same⟩ | ⟨_, _, _, _, _, same⟩ | ⟨_, _, appended, _, carried, stored⟩
  · rw [same]
    exact .refl tables
  · rw [same]
    exact .refl tables
  · rw [same]
    exact .refl tables
  · have stores := Setup.transaction_ok carried
    obtain ⟨now, _, recorded⟩ := stores.checkpoint
    have taken := stores.checkpointTaken
    rw [declared] at taken
    have timed : appended.checkpoint.status.Timed appended.checkpoint.minedAt := by
      simp [recorded, Status.Timed]
    rw [stored, stores.tables]
    exact (Tables.leadsTo_insertIdentity tables commitment).trans
      (Tables.leadsTo_insertCheckpoint timed taken)

theorem Setup.inclusion_of_continues {early late : Setup} {earlyConditions lateConditions : Conditions}
    {before after : Tables} (lawfulBefore : before.Lawful) (lawfulAfter : after.Lawful)
    (continues : before.Continues after) {commitment : Bytes} {first second : Inclusion}
    (givenFirst : early.inclusionProof earlyConditions before commitment = .ok first)
    (givenSecond : late.inclusionProof lateConditions after commitment = .ok second) :
    second.leafIndex = first.leafIndex ∧ (first.status = .mined → second.status = .mined) := by
  obtain ⟨_, foundFirst, _⟩ := inclusionProofOver_ok givenFirst
  obtain ⟨_, foundSecond, _⟩ := inclusionProofOver_ok givenSecond
  have tellsFirst := tellsStatus_of_inclusionProof lawfulBefore givenFirst
  have tellsSecond := tellsStatus_of_inclusionProof lawfulAfter givenSecond
  have sameLeaf : second.leafIndex = first.leafIndex := by
    rw [Ledger.find_of_grown continues.identities foundFirst] at foundSecond
    exact (Except.ok.inj foundSecond).symm
  refine ⟨sameLeaf, ?_⟩
  intro mined
  apply tellsSecond.mpr
  rw [sameLeaf]
  exact continues.covered (tellsFirst.mp mined)

namespace Deployment

variable {setup : Setup}

/-! ## Steps -/

theorem appendAll_leadsTo (declared : setup.schema = .declared) (name : String)
    (conditions : Conditions) (last : Option Checkpoint) (commitments : List Bytes)
    (deployment : Deployment) :
    deployment.tables.LeadsTo
      (appendAll setup name conditions last commitments deployment).2.tables := by
  induction commitments generalizing conditions last deployment with
  | nil => exact .refl deployment.tables
  | cons commitment rest inductionHypothesis =>
      have first : deployment.tables.LeadsTo
          (deployment.append setup conditions name commitment).2.tables :=
        Appender.append_leadsTo declared conditions deployment.clock deployment.tables
          (deployment.appender name) commitment
      rw [appendAll]
      split
      case h_1 failure next stopped =>
        rw [stopped] at first
        exact first
      case h_2 checkpoint next appended =>
        rw [appended] at first
        exact first.trans (inductionHypothesis _ (some checkpoint) next)

theorem step_leadsTo (setup : Setup) (declared : setup.schema = .declared) (conditions : Conditions)
    (operation : Operation) (alone : operation.Alone) (deployment : Deployment) :
    deployment.tables.LeadsTo (deployment.step setup conditions operation).2.tables := by
  cases operation with
  | append name commitment =>
      exact Appender.append_leadsTo declared conditions deployment.clock deployment.tables
        (deployment.appender name) commitment
  | appendAll name commitments =>
      exact appendAll_leadsTo declared name conditions none commitments deployment
  | confirm script root minedAt =>
      cases alone
      have confirmed := Confirmation.confirm_leadsTo conditions root minedAt deployment.tables
      rwa [← declared] at confirmed
  | _ => exact .refl deployment.tables

/-! ## Histories -/

def follow (deployment : Deployment) : Activity → Deployment
  | .operation shape event => after { shape, timeout := event.timeout } deployment event
  | .session steps =>
      { deployment with tables := (Session.run deployment.tables steps).committed }

def history (activities : List Activity) : Deployment :=
  activities.foldl follow {}

theorem follow_leadsTo (activity : Activity) (orderly : activity.Orderly) (deployment : Deployment) :
    deployment.tables.LeadsTo (deployment.follow activity).tables := by
  cases activity with
  | operation shape event =>
      exact step_leadsTo { shape, timeout := event.timeout } rfl event.conditions event.operation
        orderly deployment
  | session steps => exact Session.run_leadsTo deployment.tables steps orderly

theorem foldl_follow_leadsTo (activities : List Activity)
    (orderly : ∀ activity ∈ activities, activity.Orderly) (deployment : Deployment) :
    deployment.tables.LeadsTo (activities.foldl follow deployment).tables := by
  induction activities generalizing deployment with
  | nil => exact .refl deployment.tables
  | cons activity rest inductionHypothesis =>
      have first := follow_leadsTo activity (orderly activity (by simp)) deployment
      exact first.trans (inductionHypothesis
        (fun later member => orderly later (List.mem_cons_of_mem activity member)) _)

/-- Any two points of a history: the later one continues the earlier one, at either of them a checkpoint has a
time exactly if it is mined, and inclusion proofs change from pending to mined at most. -/
theorem history_only_grows (earlier later : List Activity)
    (orderly : ∀ activity ∈ earlier ++ later, activity.Orderly) :
    let before := (history earlier).tables
    let after := (history (earlier ++ later)).tables
    before.Continues after ∧
      (∀ tables ∈ [before, after], ∀ checkpoint ∈ tables.checkpoints,
        (checkpoint.status = .mined ↔ checkpoint.minedAt.isSome)) ∧
      ∀ (early late : Setup) (earlyConditions lateConditions : Conditions) (commitment : Bytes)
        (first second : Inclusion),
        early.inclusionProof earlyConditions before commitment = .ok first →
          late.inclusionProof lateConditions after commitment = .ok second →
            second.leafIndex = first.leafIndex ∧ ¬(first.status = .mined ∧ second.status = .pending) := by
  intro before after
  have orderlyEarlier : ∀ activity ∈ earlier, activity.Orderly :=
    fun activity member => orderly activity (List.mem_append_left later member)
  have orderlyLater : ∀ activity ∈ later, activity.Orderly :=
    fun activity member => orderly activity (List.mem_append_right earlier member)
  -- The way from the empty store to the earlier point is where the regularity of its tables comes from.
  obtain ⟨regularBefore, _⟩ := foldl_follow_leadsTo earlier orderlyEarlier {} Tables.regular_empty
  have leads : before.LeadsTo after := by
    simp only [before, after, history, List.foldl_append]
    exact foldl_follow_leadsTo later orderlyLater _
  obtain ⟨regularAfter, continues⟩ := leads regularBefore
  refine ⟨continues, ?_, ?_⟩
  · intro tables member
    rcases List.mem_cons.mp member with rfl | member
    · exact regularBefore.timed
    · rw [List.mem_singleton.mp member]
      exact regularAfter.timed
  · intro early late earlyConditions lateConditions commitment first second givenFirst givenSecond
    obtain ⟨sameLeaf, stays⟩ := Setup.inclusion_of_continues regularBefore.lawful regularAfter.lawful
      continues givenFirst givenSecond
    refine ⟨sameLeaf, ?_⟩
    intro ⟨mined, pending⟩
    rw [stays mined] at pending
    cases pending

/-- A session stores a commitment, records a mined checkpoint for it and confirms an older one.  The second
confirmation names no time and is refused, and so is the last insertion, which claims a prefix once more. -/
def pastTheAppender : List (Conditions × Session.Operation) :=
  let march : Timestamp := .ofCivil { year := 2026, month := 3, day := 1 }
  [({}, .append [2] none),
   ({}, .insert { root := [1, 2, 0, 0], lastIdentity := [2], identityCount := 2, status := .mined
                  minedAt := some march }),
   ({}, .changeStatus [] [1, 0, 0, 0] .mined none),
   ({}, .changeStatus [] [1, 0, 0, 0] .mined (some march)),
   ({}, .insert { root := [7], lastIdentity := [1], identityCount := 1 }),
   ({}, .commit),
   ({}, .append [8] none)]

def mixedBeginning : List Activity :=
  [.operation fourLeaves.shape (calm (.append "first" [1])), .session pastTheAppender]

def mixedEnd : List Activity :=
  [.operation fourLeaves.shape
     { timeout := .ofInt 10, conditions := { faults := [.commit] }, operation := .append "first" [3] },
   .operation fourLeaves.shape (calm (.append "second" [1])),
   .operation fourLeaves.shape (calm (.confirm [] [1, 2, 1, 0]
     (.ofCivil { year := 2026, month := 4, day := 1 })))]

/-- The beginning holds two commitments and the end three; the first one keeps its leaf and stays mined. -/
theorem history_only_grows_mixed :
    (∀ activity ∈ mixedBeginning ++ mixedEnd, activity.Orderly) ∧
      (history mixedBeginning).tables.commitments = [[1], [2]] ∧
      (history (mixedBeginning ++ mixedEnd)).tables.commitments = [[1], [2], [1]] ∧
      (history mixedBeginning).tables.Continues (history (mixedBeginning ++ mixedEnd)).tables ∧
      ∃ first second,
        fourLeaves.inclusionProof {} (history mixedBeginning).tables [1] = .ok first ∧
          fourLeaves.inclusionProof {} (history (mixedBeginning ++ mixedEnd)).tables [1] =
            .ok second ∧
          first.status = .mined ∧ second.leafIndex = first.leafIndex ∧ second.status = .mined := by
  have orderly : ∀ activity ∈ mixedBeginning ++ mixedEnd, activity.Orderly := by decide
  obtain ⟨continues, _, asked⟩ := history_only_grows mixedBeginning mixedEnd orderly
  refine ⟨orderly, by decide +kernel, by decide +kernel, continues, ?_⟩
  have minedBefore : (fourLeaves.inclusionProof {} (history mixedBeginning).tables [1]).toOption.map
      (·.status) = some .mined := by decide +kernel
  have answered : (fourLeaves.inclusionProof {}
      (history (mixedBeginning ++ mixedEnd)).tables [1]).toOption.isSome := by decide +kernel
  cases givenFirst : fourLeaves.inclusionProof {} (history mixedBeginning).tables [1] with
  | error failure => simp [givenFirst, Except.toOption] at minedBefore
  | ok first =>
      cases givenSecond : fourLeaves.inclusionProof {}
          (history (mixedBeginning ++ mixedEnd)).tables [1] with
      | error failure => simp [givenSecond, Except.toOption] at answered
      | ok second =>
          obtain ⟨sameLeaf, notBack⟩ := asked _ _ _ _ _ _ _ givenFirst givenSecond
          have mined : first.status = .mined := by
            simpa [givenFirst, Except.toOption] using minedBefore
          refine ⟨first, second, rfl, rfl, mined, sameLeaf, ?_⟩
          cases status : second.status with
          | mined => rfl
          | pending => exact absurd ⟨mined, status⟩ notBack

end Deployment

end CommitmentLog
