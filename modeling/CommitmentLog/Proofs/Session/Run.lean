import CommitmentLog.Proofs.Checkpoints.Insert
import CommitmentLog.Proofs.Confirmation.Alone
import CommitmentLog.Proofs.Ledger.Append
import CommitmentLog.Session

/-!
# Runs of a session

A session works on a copy of the tables and keeps what it did with every commit.  As long as it stores
identities only by appending and nobody else writes meanwhile, each of its steps leads from the working tables
to later ones, and what it has committed continues the tables it began with.
-/

set_option autoImplicit false

namespace CommitmentLog

open Store

namespace Session

/-- A session stores no identity past the rules of appending, and no other writer interrupts it. -/
def Operation.Orderly : Operation → Prop
  | .put _ => False
  | .changeStatus script _ _ _ => script = []
  | _ => True

instance : DecidablePred Operation.Orderly := fun operation =>
  match operation with
  | .put _ => inferInstanceAs (Decidable False)
  | .changeStatus script _ _ _ => inferInstanceAs (Decidable (script = []))
  | .append _ _ | .get _ | .count | .contains _ _ | .find _ | .leaves | .page _ _ | .insert _
  | .getRoot _ | .latest | .findLatest | .withStatus _ | .all | .highestMined | .commit | .rollback =>
    inferInstanceAs (Decidable True)

def after (session : Session) (step : Conditions × Operation) : Session :=
  (session.step .declared step.1 step.2).2.2

def run (tables : Tables) (steps : List (Conditions × Operation)) : Session :=
  steps.foldl after { committed := tables, working := tables }

variable {start : Tables} {session : Session}

/-! ## Single steps -/

theorem step_of_plain (schema : Schema) (conditions : Conditions) (session : Session)
    {operation : Operation} (plain : operation ≠ .commit ∧ operation ≠ .rollback) :
    session.step schema conditions operation =
      match within schema conditions session.working operation with
      | (.ok answer, after) => (.ok answer, false, { session with working := after })
      | (.error failure, after) =>
          (.error failure, session.afterFailure (spoils conditions operation failure) after) := by
  cases operation with
  | commit => exact absurd rfl plain.1
  | rollback => exact absurd rfl plain.2
  | _ => rfl

theorem step_of_refused {schema : Schema} {conditions : Conditions} {operation : Operation}
    {failure : Failure} (plain : operation ≠ .commit ∧ operation ≠ .rollback)
    (faultless : conditions.faults = []) (unrejected : rejected operation failure = false)
    (refused : within schema conditions session.working operation = (.error failure, session.working)) :
    session.step schema conditions operation = (.error failure, false, session) := by
  have spared : spoils conditions operation failure = false := by
    rw [spoils, faultless, unrejected]
    rfl
  rw [step_of_plain _ _ _ plain, refused]
  simp only [spared]
  rfl

/-! ## What a step leads to -/

theorem writing_leadsTo {α : Type} (tables : Tables) (answer : α → Answer)
    (result : Except Failure (α × Tables))
    (leads : ∀ value after, result = .ok (value, after) → tables.LeadsTo after) :
    tables.LeadsTo (writing tables answer result).2 := by
  cases result with
  | error failure => exact .refl tables
  | ok written => exact leads written.1 written.2 rfl

theorem append_leadsTo (conditions : Conditions) (tables : Tables) (commitment : Bytes)
    (leafIndex : Option Int) :
    tables.LeadsTo (within .declared conditions tables (.append commitment leafIndex)).2 := by
  apply writing_leadsTo
  intro next after appended
  obtain ⟨rfl, _, placed⟩ := Ledger.append_ok appended
  rw [placed]
  exact Tables.leadsTo_insertIdentity tables commitment

theorem insert_leadsTo (conditions : Conditions) (tables : Tables) (draft : Checkpoints.Draft) :
    tables.LeadsTo (within .declared conditions tables (.insert draft)).2 := by
  apply writing_leadsTo
  intro checkpoint after inserted
  obtain ⟨_, _, _, _, _, taken, placed⟩ := Checkpoints.insert_ok inserted
  rw [placed]
  exact Tables.leadsTo_insertCheckpoint (Checkpoints.minedAt_of_insert inserted) taken

theorem within_leadsTo (conditions : Conditions) (tables : Tables) (operation : Operation)
    (orderly : operation.Orderly) :
    tables.LeadsTo (within .declared conditions tables operation).2 := by
  cases operation with
  | append commitment leafIndex => exact append_leadsTo conditions tables commitment leafIndex
  | insert draft => exact insert_leadsTo conditions tables draft
  | put identity => cases orderly
  | changeStatus script root status minedAt =>
      cases orderly
      exact Confirmation.applyStatus_leadsTo conditions root status minedAt tables
  | _ => exact .refl tables

/-- What a session has committed continues the tables it began with, and what it works on continues that. -/
structure Continues (start : Tables) (session : Session) : Prop where
  committed : start.LeadsTo session.committed
  working : session.committed.LeadsTo session.working

theorem Continues.rollback (continues : session.Continues start) :
    ({ session with working := session.committed } : Session).Continues start :=
  ⟨continues.committed, .refl _⟩

theorem Continues.work (continues : session.Continues start) {after : Tables}
    (leads : session.working.LeadsTo after) :
    ({ session with working := after } : Session).Continues start :=
  ⟨continues.committed, continues.working.trans leads⟩

theorem after_continues (step : Conditions × Operation) (orderly : step.2.Orderly)
    (continues : session.Continues start) : (session.after step).Continues start := by
  have leads := within_leadsTo step.1 session.working step.2 orderly
  rw [after, Session.step.eq_def]
  -- A rollback drops the working tables, a commit keeps them, and everything else changes only them.
  split
  case h_1 => exact continues.rollback
  case h_2 =>
    split
    · exact continues.rollback
    · exact ⟨continues.committed.trans continues.working, .refl _⟩
  case h_3 =>
    split
    case h_1 answer tables done =>
      rw [done] at leads
      exact continues.work leads
    case h_2 failure tables failed =>
      rw [failed] at leads
      rw [afterFailure]
      split
      · exact continues.rollback
      · exact continues.work leads

theorem foldl_after_continues (steps : List (Conditions × Operation))
    (orderly : ∀ step ∈ steps, step.2.Orderly) (continues : session.Continues start) :
    (steps.foldl after session).Continues start := by
  induction steps generalizing session with
  | nil => exact continues
  | cons step rest inductionHypothesis =>
      have next := after_continues step (orderly step (by simp)) continues
      exact inductionHypothesis (fun later member => orderly later (List.mem_cons_of_mem step member))
        next

theorem run_leadsTo (tables : Tables) (steps : List (Conditions × Operation))
    (orderly : ∀ step ∈ steps, step.2.Orderly) : tables.LeadsTo (run tables steps).committed := by
  have begins : ({ committed := tables, working := tables } : Session).Continues tables :=
    ⟨.refl tables, .refl tables⟩
  exact (foldl_after_continues steps orderly begins).committed

end Session

end CommitmentLog
