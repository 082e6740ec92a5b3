import CommitmentLog.Proofs.Store.Plan

/-!
# The declared and the migrated schema

The two schemas state the same rules in different places, so they admit the same rows and keep the same rows
apart.  They part where a status is left to its default, that is where an insertion omits it or where a missing
one is supplied: the declared schema has none to offer, and the migrated one goes on as if the statement said
that the checkpoint is pending.  They may also part for statements that look at the schema, since columns stand
in another order and an index has another name.  Stores that begin alike stay alike under all other statements.
-/

set_option autoImplicit false

namespace CommitmentLog.Store

variable {Column Row : Type}

/-! ## Rules -/

/-- Two definitions of the same columns that admit the same rows, and the same rows together, however their checks
are read. -/
structure Definition.SameRules [DecidableEq Column] (first second : Definition Column) : Prop where
  kinds : first.kind? = second.kind?
  conforms : ∀ row passes, first.conforms row passes = second.conforms row passes
  clash : ∀ row other, first.clash row other = second.clash row other

namespace Schema

theorem sameRules_identities : migrated.identities.SameRules declared.identities := by
  refine ⟨?_, ?_, fun row other => rfl⟩
  · funext column
    cases column <;> rfl
  · intro row passes
    -- The columns stand in another order.
    simp only [migrated, declared, Definition.conforms, List.all_cons, List.all_nil, Bool.and_true]
    rw [Bool.and_comm (ColumnRule.admits _ row passes)]

theorem sameRules_checkpoints : migrated.checkpoints.SameRules declared.checkpoints := by
  refine ⟨?_, ?_, fun row other => rfl⟩
  · funext column
    cases column <;> rfl
  · intro row passes
    -- The values of the status are a check of the table in one, and of the column in the other.
    simp only [migrated, declared, Definition.conforms, List.all_cons, List.all_nil, Bool.and_true,
      ColumnRule.admits]
    grind

theorem status_of_conforms {row : Cells CheckpointColumn}
    {passes : Check CheckpointColumn → Cells CheckpointColumn → Bool}
    (conforms : declared.checkpoints.conforms row passes = true) : row .status ≠ .null := by
  intro missing
  simp [declared, Definition.conforms, ColumnRule.admits, missing] at conforms

end Schema

/-! ## Changes of one table -/

section Changes

variable [DecidableEq Column] (layout : Layout Column Row) {first second : Definition Column}
  (same : first.SameRules second) (rows : List Row)

include same

theorem admitted_of_sameRules : admitted layout first rows = admitted layout second rows := by
  simp only [admitted, same.conforms, same.clash]

theorem Change.run_insert_of_sameRules {draft other : Assignment Column}
    (filled : first.fill draft = second.fill other) :
    (Change.insert draft).run layout first rows = (Change.insert other).run layout second rows := by
  simp only [Change.run, filled, same.conforms, same.clash]

theorem Change.run_update_of_sameRules (selector assignment : Assignment Column) :
    (Change.update selector assignment).run layout first rows =
      (Change.update selector assignment).run layout second rows := by
  simp only [Change.run, admitted_of_sameRules layout same]

theorem replacement_of_sameRules {cells other : Cells Column}
    (supplied : first.supply cells = second.supply other) :
    replacement layout first cells = replacement layout second other := by
  simp only [replacement, supplied, same.conforms]

theorem supplant_of_sameRules (row : Row) :
    supplant layout first rows row = supplant layout second rows row := by
  simp only [supplant, same.clash]

theorem rewrite_of_sameRules {assignment other : Assignment Column} (chosen : List Row)
    (supplied : ∀ row ∈ chosen, first.supply (Definition.assign assignment (layout.cells row)) =
      second.supply (Definition.assign other (layout.cells row))) :
    rewrite layout first assignment rows chosen = rewrite layout second other rows chosen := by
  induction chosen generalizing rows with
  | nil => rfl
  | cons row rest inductionHypothesis =>
      have anew := replacement_of_sameRules layout same (supplied row (by simp))
      have others := fun rows => inductionHypothesis rows fun other member =>
        supplied other (List.mem_cons_of_mem _ member)
      simp only [rewrite, anew, supplant_of_sameRules layout same, others]

end Changes

/-! ## Defaults -/

section Assignments

variable [DecidableEq Column] (column : Column) (cell : Cell) (assignment : Assignment Column)
  (row : Cells Column)

theorem assign_cons_same : Definition.assign ((column, cell) :: assignment) row column = cell := by
  simp [Definition.assign, Definition.written?]

theorem assign_cons_other {column other : Column} (differs : other ≠ column) :
    Definition.assign ((column, cell) :: assignment) row other =
      Definition.assign assignment row other := by
  simp [Definition.assign, Definition.written?, Ne.symm differs]

end Assignments

theorem defaultCell_identities :
    Schema.migrated.identities.defaultCell = Schema.declared.identities.defaultCell := by
  funext column
  cases column <;> rfl

theorem fill_identities (draft : Assignment IdentityColumn) :
    Schema.migrated.identities.fill draft = Schema.declared.identities.fill draft := by
  rw [Definition.fill, defaultCell_identities, Definition.fill]

theorem supply_identities (row : Cells IdentityColumn) :
    Schema.migrated.identities.supply row = Schema.declared.identities.supply row := by
  funext column
  rw [Definition.supply, Definition.supply, defaultCell_identities]
  cases column <;> rfl

theorem defaultCell_checkpoints {column : CheckpointColumn} (other : column ≠ .status) :
    Schema.migrated.checkpoints.defaultCell column = Schema.declared.checkpoints.defaultCell column := by
  cases column with
  | status => exact absurd rfl other
  | _ => rfl

section Status

variable {draft : Assignment CheckpointColumn} {row : Cells CheckpointColumn}

/-- A draft that names the status leaves no use for the default that tells the schemas apart. -/
theorem fill_checkpoints_of_named (named : Definition.written? draft .status ≠ none) :
    Schema.migrated.checkpoints.fill draft = Schema.declared.checkpoints.fill draft := by
  funext column
  rw [Definition.fill, Definition.fill, Definition.assign, Definition.assign]
  cases written : Definition.written? draft column with
  | some cell => rfl
  | none =>
      have other : column ≠ .status := by
        rintro rfl
        exact named written
      exact defaultCell_checkpoints other

def pendingFirst (assignment : Assignment CheckpointColumn) : Assignment CheckpointColumn :=
  (.status, .text Status.pending.text) :: assignment

theorem fill_checkpoints_of_omitted (omitted : Definition.written? draft .status = none) :
    Schema.migrated.checkpoints.fill draft = Schema.declared.checkpoints.fill (pendingFirst draft) := by
  funext column
  rw [Definition.fill, Definition.fill, pendingFirst]
  by_cases here : column = .status
  · rw [here, assign_cons_same, Definition.assign, omitted]
    rfl
  · rw [assign_cons_other _ _ _ here, Definition.assign, Definition.assign, defaultCell_checkpoints here]

theorem supply_checkpoints_other {column : CheckpointColumn} (other : column ≠ .status) :
    Schema.migrated.checkpoints.supply row column = Schema.declared.checkpoints.supply row column := by
  rw [Definition.supply, Definition.supply, defaultCell_checkpoints other]
  cases column with
  | status => exact absurd rfl other
  | _ => rfl

theorem supply_checkpoints_of_given (given : row .status ≠ .null) :
    Schema.migrated.checkpoints.supply row = Schema.declared.checkpoints.supply row := by
  funext column
  by_cases here : column = .status
  · simp only [here, Definition.supply, given, false_and, if_false]
  · exact supply_checkpoints_other here

theorem supply_checkpoints_of_missing {assignment : Assignment CheckpointColumn}
    (missing : Definition.assign assignment row .status = .null) :
    Schema.migrated.checkpoints.supply (Definition.assign assignment row) =
      Schema.declared.checkpoints.supply (Definition.assign (pendingFirst assignment) row) := by
  funext column
  by_cases here : column = .status
  · have supplied : Schema.migrated.checkpoints.supply (Definition.assign assignment row) .status =
        .text Status.pending.text := if_pos ⟨missing, rfl⟩
    have written : Definition.assign (pendingFirst assignment) row .status =
        .text Status.pending.text := assign_cons_same _ _ _ _
    rw [here, supplied, Definition.supply, written, if_neg fun both => Cell.noConfusion both.1]
  · rw [supply_checkpoints_other here, Definition.supply, Definition.supply, pendingFirst,
      assign_cons_other _ _ _ here]

theorem supply_fill_of_left (left : Definition.written? draft .status = none ∨
    Definition.written? draft .status = some .null) :
    Schema.migrated.checkpoints.supply (Schema.migrated.checkpoints.fill draft) =
      Schema.declared.checkpoints.supply (Schema.declared.checkpoints.fill (pendingFirst draft)) := by
  rcases left with omitted | missing
  · rw [fill_checkpoints_of_omitted omitted]
    refine supply_checkpoints_of_given ?_
    rw [Definition.fill, pendingFirst, assign_cons_same]
    exact Cell.noConfusion
  · rw [fill_checkpoints_of_named (by simp [missing])]
    refine supply_checkpoints_of_missing ?_
    rw [Definition.assign, missing]
    rfl

theorem supply_fill_of_given {cell : Cell} (written : Definition.written? draft .status = some cell)
    (given : cell ≠ .null) :
    Schema.migrated.checkpoints.supply (Schema.migrated.checkpoints.fill draft) =
      Schema.declared.checkpoints.supply (Schema.declared.checkpoints.fill draft) := by
  rw [fill_checkpoints_of_named (by simp [written])]
  refine supply_checkpoints_of_given ?_
  rwa [Definition.fill, Definition.assign, written]

end Status

/-! ## Changes that leave the status to its default -/

namespace Change

/-- Whether the status of a checkpoint that a change writes is the default of its column: an insertion may omit
it, and a missing one may be supplied. -/
def LeavesStatus (resolution : Resolution) : Change CheckpointColumn → Prop
  | .insert draft => Definition.written? draft .status = none ∨
      resolution = .replace ∧ Definition.written? draft .status = some .null
  | .update _ assignment => resolution = .replace ∧ Definition.written? assignment .status = some .null
  | .delete _ => False

instance (resolution : Resolution) : DecidablePred (LeavesStatus resolution)
  | .insert draft => inferInstanceAs (Decidable (Definition.written? draft .status = none ∨
      resolution = .replace ∧ Definition.written? draft .status = some .null))
  | .update _ assignment => inferInstanceAs
      (Decidable (resolution = .replace ∧ Definition.written? assignment .status = some .null))
  | .delete _ => inferInstanceAs (Decidable False)

def asPending : Change CheckpointColumn → Change CheckpointColumn
  | .insert draft => .insert (pendingFirst draft)
  | .update selector assignment => .update selector (pendingFirst assignment)
  | .delete selector => .delete selector

/-- The change with the status spelled out that it leaves to the default. -/
def spelledOut (resolution : Resolution) (change : Change CheckpointColumn) : Change CheckpointColumn :=
  if change.LeavesStatus resolution then change.asPending else change

section Attempts

variable (resolution : Resolution)

theorem attempt_identities (layout : Layout IdentityColumn Row) (rows : List Row)
    (change : Change IdentityColumn) :
    change.attempt layout Schema.migrated.identities resolution rows =
      change.attempt layout Schema.declared.identities resolution rows := by
  have same := Schema.sameRules_identities
  cases change with
  | insert draft =>
      have ran := run_insert_of_sameRules layout same rows (fill_identities draft)
      have anew := replacement_of_sameRules layout same
        (supply_identities (Schema.declared.identities.fill draft))
      simp only [attempt, runReplacing, ran, fill_identities, anew, supplant_of_sameRules layout same]
  | update selector assignment =>
      have ran := run_update_of_sameRules layout same rows selector assignment
      have written := fun kept chosen => rewrite_of_sameRules layout same kept chosen fun row _ =>
        supply_identities (Definition.assign assignment (layout.cells row))
      simp only [attempt, runReplacing, ran, written]
  | delete selector => rfl

variable (layout : Layout CheckpointColumn Row) (rows : List Row)

theorem run_checkpoints (change : Change CheckpointColumn) :
    change.run layout Schema.migrated.checkpoints rows =
      (change.spelledOut .abort).run layout Schema.declared.checkpoints rows := by
  have same := Schema.sameRules_checkpoints
  cases change with
  | insert draft =>
      by_cases omitted : Definition.written? draft .status = none
      · rw [spelledOut, if_pos (.inl omitted)]
        exact run_insert_of_sameRules layout same rows (fill_checkpoints_of_omitted omitted)
      · rw [spelledOut, if_neg (by simp [LeavesStatus, omitted])]
        exact run_insert_of_sameRules layout same rows (fill_checkpoints_of_named omitted)
  | update selector assignment => exact run_update_of_sameRules layout same rows selector assignment
  | delete selector => rfl

theorem runReplacing_insert (draft : Assignment CheckpointColumn) :
    (insert draft).runReplacing layout Schema.migrated.checkpoints rows =
      ((insert draft).spelledOut .replace).runReplacing layout Schema.declared.checkpoints rows := by
  have same := Schema.sameRules_checkpoints
  by_cases left : (insert draft).LeavesStatus .replace
  · have anew := replacement_of_sameRules layout same
      (supply_fill_of_left (left.imp_right And.right))
    simp only [spelledOut, if_pos left, asPending, runReplacing, anew, supplant_of_sameRules layout same]
  · obtain ⟨named, given⟩ := not_or.mp left
    obtain ⟨cell, written⟩ := Option.ne_none_iff_exists'.mp named
    have present : cell ≠ .null := fun missing => given ⟨rfl, missing ▸ written⟩
    have anew := replacement_of_sameRules layout same (supply_fill_of_given written present)
    simp only [spelledOut, if_neg left, runReplacing, anew, supplant_of_sameRules layout same]

theorem runReplacing_update (selector assignment : Assignment CheckpointColumn)
    (given : ∀ row ∈ rows, layout.cells row .status ≠ .null) :
    (update selector assignment).runReplacing layout Schema.migrated.checkpoints rows =
      ((update selector assignment).spelledOut .replace).runReplacing layout
        Schema.declared.checkpoints rows := by
  have same := Schema.sameRules_checkpoints
  by_cases left : (update selector assignment).LeavesStatus .replace
  · have missing : ∀ row, Definition.assign assignment (layout.cells row) .status = .null := by
      intro row
      rw [Definition.assign, left.2]
      rfl
    have written := fun kept chosen => rewrite_of_sameRules layout same kept chosen
      fun row _ => supply_checkpoints_of_missing (missing row)
    simp only [spelledOut, if_pos left, asPending, runReplacing, written]
  · have present : ∀ row ∈ rows, Definition.assign assignment (layout.cells row) .status ≠ .null := by
      intro row member
      rw [Definition.assign]
      cases written : Definition.written? assignment .status with
      | none => exact given row member
      | some cell =>
          rintro rfl
          exact left ⟨rfl, written⟩
    have written := fun kept => rewrite_of_sameRules layout same kept
      (rows.filter fun row => selects selector (layout.cells row))
      fun row member => supply_checkpoints_of_given (present row (List.mem_filter.mp member).1)
    simp only [spelledOut, if_neg left, runReplacing, written]

theorem spelledOut_of_ne {resolution : Resolution} (other : resolution ≠ .replace)
    (change : Change CheckpointColumn) : change.spelledOut resolution = change.spelledOut .abort := by
  cases change <;> simp [spelledOut, LeavesStatus, other]

/-- What the migrated schema makes of a change of checkpoints, the declared one makes of it when the status is
spelled out. -/
theorem attempt_checkpoints (change : Change CheckpointColumn)
    (given : ∀ row ∈ rows, layout.cells row .status ≠ .null) :
    change.attempt layout Schema.migrated.checkpoints resolution rows =
      (change.spelledOut resolution).attempt layout Schema.declared.checkpoints resolution rows := by
  unfold attempt
  split
  case isTrue replacing =>
    subst replacing
    cases change with
    | insert draft => exact runReplacing_insert layout rows draft
    | update selector assignment => exact runReplacing_update layout rows selector assignment given
    | delete selector => rfl
  case isFalse other => rw [spelledOut_of_ne other, run_checkpoints]

end Attempts

end Change

/-! ## Statements -/

namespace Statement

def LeavesStatus (resolution : Resolution) : Statement → Prop
  | .identities _ => False
  | .checkpoints change => change.LeavesStatus resolution

instance (resolution : Resolution) : DecidablePred (LeavesStatus resolution)
  | .identities _ => inferInstanceAs (Decidable False)
  | .checkpoints change => inferInstanceAs (Decidable (change.LeavesStatus resolution))

def spelledOut (resolution : Resolution) : Statement → Statement
  | .identities change => .identities change
  | .checkpoints change => .checkpoints (change.spelledOut resolution)

theorem spelledOut_of_given {resolution : Resolution} {statement : Statement}
    (given : ¬ statement.LeavesStatus resolution) : statement.spelledOut resolution = statement := by
  cases statement with
  | identities change => rfl
  | checkpoints change =>
      have same : change.spelledOut resolution = change := if_neg given
      rw [spelledOut, same]

/-! ### As the log makes them -/

section Typed

variable (statement : Statement) (tables : Tables)

theorem runUnreferenced_migrated :
    statement.runUnreferenced .migrated tables =
      (statement.spelledOut .abort).runUnreferenced .declared tables := by
  cases statement with
  | identities change =>
      have ran := change.attempt_identities .abort identityLayout tables.identities
      exact congrArg (Option.map _) ran
  | checkpoints change =>
      have ran := change.run_checkpoints checkpointLayout tables.checkpoints
      exact congrArg (Option.map _) ran

theorem keepsReferences_migrated (after : Tables) :
    statement.keepsReferences .migrated tables after =
      (statement.spelledOut .abort).keepsReferences .declared tables after := by
  cases statement with
  | identities change => cases change <;> rfl
  | checkpoints change =>
      cases change with
      | insert draft =>
          by_cases omitted : Definition.written? draft .status = none
          · have filled := fill_checkpoints_of_omitted omitted
            rw [spelledOut, Change.spelledOut, if_pos (.inl omitted), keepsReferences, filled]
            rfl
          · have filled := fill_checkpoints_of_named omitted
            have given : ¬ (Change.insert draft).LeavesStatus .abort := by
              simp [Change.LeavesStatus, omitted]
            rw [spelledOut, Change.spelledOut, if_neg given, keepsReferences, filled]
            rfl
      | update selector assignment => rfl
      | delete selector => rfl

theorem run_migrated : statement.run .migrated tables = (statement.spelledOut .abort).run .declared tables := by
  simp only [run, runUnreferenced_migrated, keepsReferences_migrated]

end Typed

section Left

variable {statement : Statement} (left : statement.LeavesStatus .abort) (tables : Tables)

include left

theorem exists_draft_of_leavesStatus :
    ∃ draft, statement = .checkpoints (.insert draft) ∧ Definition.written? draft .status = none := by
  cases statement with
  | identities change => exact left.elim
  | checkpoints change =>
      cases change with
      | insert draft =>
          rcases left with omitted | ⟨replacing, _⟩
          · exact ⟨draft, rfl, omitted⟩
          · cases replacing
      | update selector assignment => cases left.1
      | delete selector => exact left.elim

theorem run_declared_of_left : statement.run .declared tables = none := by
  obtain ⟨draft, rfl, omitted⟩ := exists_draft_of_leavesStatus left
  cases accepted : (checkpoints (.insert draft)).run .declared tables with
  | none => rfl
  | some outcome =>
      obtain ⟨rows, ran, _⟩ := run_checkpoints_ok accepted
      obtain ⟨row, read, conforms, _⟩ := Change.run_insert_ok ran
      have cells : checkpointCells row .status = Schema.declared.checkpoints.fill draft .status :=
        congrFun (checkpointCells_of_read read) _
      rw [Definition.fill, Definition.assign, omitted] at cells
      exact absurd cells (Schema.status_of_conforms conforms)

theorem stored_pending {after : Tables} {touched : Nat}
    (accepted : statement.run .migrated tables = some (after, touched)) :
    ∃ row, row.status = .pending ∧ touched = 1 ∧
      after = { tables with checkpoints := place (·.identityCount) row tables.checkpoints } := by
  obtain ⟨draft, rfl, omitted⟩ := exists_draft_of_leavesStatus left
  obtain ⟨rows, ran, rfl⟩ := run_checkpoints_ok accepted
  obtain ⟨row, read, _, rfl, rfl⟩ := Change.run_insert_ok ran
  have cells : checkpointCells row .status = Schema.migrated.checkpoints.fill draft .status :=
    congrFun (checkpointCells_of_read read) _
  rw [Definition.fill, Definition.assign, omitted] at cells
  have text : row.status.text = Status.pending.text := Cell.text.inj cells
  have known := congrArg Status.ofText? text
  rw [Status.ofText?_text, Status.ofText?_text] at known
  exact ⟨row, Option.some.inj known, rfl, rfl⟩

end Left

end Statement

/-! ## Storage -/

namespace Storage

variable (storage : Storage)

theorem identityLayout_migrated : storage.identityLayout .migrated = storage.identityLayout .declared := by
  rw [identityLayout, Schema.sameRules_identities.kinds, identityLayout]

theorem checkpointLayout_migrated :
    storage.checkpointLayout .migrated = storage.checkpointLayout .declared := by
  rw [checkpointLayout, Schema.sameRules_checkpoints.kinds, checkpointLayout]

theorem orphaned_migrated : storage.orphaned .migrated = storage.orphaned .declared := by
  funext contents checkpoint
  rw [orphaned, identityLayout_migrated, checkpointLayout_migrated]
  rfl

theorem keepsReferences_migrated :
    storage.keepsReferences .migrated = storage.keepsReferences .declared := by
  funext before after
  rw [keepsReferences, checkpointLayout_migrated, orphaned_migrated]
  rfl

/-- Every checkpoint has a status, as it must have under either schema. -/
def StatusesGiven (contents : storage.Contents) : Prop :=
  ∀ checkpoint ∈ contents.checkpoints,
    (storage.checkpointLayout .declared).cells checkpoint .status ≠ .null

end Storage

namespace Statement

variable {storage : Storage} {statement : Statement} {contents after : storage.Contents} {touched : Nat}

theorem attempt_migrated (statement : Statement) (resolution : Resolution) (given : storage.StatusesGiven contents) :
    statement.attempt storage .migrated resolution contents =
      (statement.spelledOut resolution).attempt storage .declared resolution contents := by
  cases statement with
  | identities change =>
      have made := change.attempt_identities resolution (storage.identityLayout .declared)
        contents.identities
      rw [attempt, spelledOut, attempt, storage.identityLayout_migrated, made]
  | checkpoints change =>
      have made := change.attempt_checkpoints resolution (storage.checkpointLayout .declared)
        contents.checkpoints given
      rw [attempt, spelledOut, attempt, storage.checkpointLayout_migrated, made]

theorem statusesGiven_attempt {resolution : Resolution} (given : storage.StatusesGiven contents)
    (accepted : statement.attempt storage .declared resolution contents = some (after, touched)) :
    storage.StatusesGiven after := by
  cases statement with
  | identities change =>
      obtain ⟨outcome, _, result⟩ := Option.map_eq_some_iff.mp accepted
      cases result
      exact given
  | checkpoints change =>
      obtain ⟨outcome, made, result⟩ := Option.map_eq_some_iff.mp accepted
      cases result
      intro checkpoint member
      rcases Change.mem_attempt made member with old | conforms
      · exact given checkpoint old
      · exact Schema.status_of_conforms conforms

end Statement

/-! ## Plans -/

namespace Plan

variable {storage : Storage} {resolution : Resolution} {contents after : storage.Contents}

/-- The plan makes the same changes under both schemas, so it depends on the stored rows alone. -/
def ReadsRowsOnly (plan : Plan storage) : Prop :=
  plan.changes .migrated = plan.changes .declared

/-- No change that the plan makes leaves the status of a checkpoint to its default. -/
def GivesStatus (plan : Plan storage) : Prop :=
  ∀ contents changes, plan.changes .declared contents = some changes →
    ∀ change ∈ changes, ¬ change.LeavesStatus plan.resolution

def spelledOut (plan : Plan storage) : Plan storage :=
  { plan with
    changes := fun schema contents =>
      (plan.changes schema contents).map (·.map (Statement.spelledOut plan.resolution)) }

theorem statusesGiven_runEach {changes : List Statement} {touched : Option Nat}
    (given : storage.StatusesGiven contents)
    (ran : runEach .declared resolution contents changes = some (after, touched)) :
    storage.StatusesGiven after := by
  induction changes generalizing contents touched with
  | nil =>
      cases ran
      exact given
  | cons change rest inductionHypothesis =>
      unfold runEach at ran
      split at ran
      case h_1 between first made =>
        obtain ⟨outcome, others, result⟩ := Option.map_eq_some_iff.mp ran
        cases result
        exact inductionHypothesis (Statement.statusesGiven_attempt given made) others
      case h_2 =>
        cases resolution with
        | fail =>
            cases ran
            exact given
        | ignore => exact inductionHypothesis given ran
        | abort => cases ran
        | replace => cases ran

theorem runEach_migrated (changes : List Statement) (given : storage.StatusesGiven contents) :
    runEach .migrated resolution contents changes =
      runEach .declared resolution contents (changes.map (Statement.spelledOut resolution)) := by
  induction changes generalizing contents with
  | nil => rfl
  | cons change rest inductionHypothesis =>
      have first := change.attempt_migrated resolution given
      simp only [List.map_cons, runEach, first]
      cases made : (change.spelledOut resolution).attempt storage .declared resolution contents with
      | some outcome =>
          have kept := Statement.statusesGiven_attempt given made
          simp only [inductionHypothesis kept]
      | none => simp only [inductionHypothesis given]

theorem statusesGiven_run (plan : Plan storage) (given : storage.StatusesGiven contents) :
    storage.StatusesGiven (plan.run .declared contents).2 := by
  unfold run carryOut
  split
  case h_1 => exact given
  case h_2 =>
    split
    case h_1 => exact given
    case h_2 ran =>
      split
      case isTrue => exact statusesGiven_runEach given ran
      case isFalse => exact given

theorem changes_spelledOut (plan : Plan storage) (schema : Schema) (contents : storage.Contents) :
    plan.spelledOut.changes schema contents =
      (plan.changes schema contents).map (·.map (Statement.spelledOut plan.resolution)) := rfl

theorem run_migrated {plan : Plan storage} (rowsOnly : plan.ReadsRowsOnly)
    (given : storage.StatusesGiven contents) :
    plan.run .migrated contents = plan.spelledOut.run .declared contents := by
  have planned := congrFun rowsOnly contents
  rw [run, run, planned, changes_spelledOut]
  cases plan.changes .declared contents with
  | none => rfl
  | some changes =>
      have carried : carryOut .migrated plan.resolution contents changes =
          carryOut .declared plan.resolution contents
            (changes.map (Statement.spelledOut plan.resolution)) := by
        rw [carryOut, carryOut, runEach_migrated changes given, storage.keepsReferences_migrated]
      exact carried

theorem history_migrated {plans : List (Plan storage)} (rowsOnly : ∀ plan ∈ plans, plan.ReadsRowsOnly)
    (given : storage.StatusesGiven contents) :
    history .migrated contents plans = history .declared contents (plans.map spelledOut) := by
  induction plans generalizing contents with
  | nil => rfl
  | cons plan rest inductionHypothesis =>
      have first := run_migrated (rowsOnly plan (by simp)) given
      have others := inductionHypothesis (fun other member => rowsOnly other (List.mem_cons_of_mem _ member))
        (statusesGiven_run plan.spelledOut given)
      simp only [List.map_cons, history, first, others]

theorem run_spelledOut {plan : Plan storage} (gives : plan.GivesStatus) (contents : storage.Contents) :
    plan.spelledOut.run .declared contents = plan.run .declared contents := by
  rw [run, run, changes_spelledOut]
  cases planned : plan.changes .declared contents with
  | none => rfl
  | some changes =>
      have unchanged : changes.map (Statement.spelledOut plan.resolution) = changes.map id :=
        List.map_congr_left fun change member =>
          Statement.spelledOut_of_given (gives contents changes planned change member)
      rw [Option.map_some, unchanged, List.map_id]
      rfl

theorem history_spelledOut {plans : List (Plan storage)} (gives : ∀ plan ∈ plans, plan.GivesStatus)
    (contents : storage.Contents) :
    history .declared contents (plans.map spelledOut) = history .declared contents plans := by
  induction plans generalizing contents with
  | nil => rfl
  | cons plan rest inductionHypothesis =>
      have first := run_spelledOut (gives plan (by simp)) contents
      have others := inductionHypothesis fun other member => gives other (List.mem_cons_of_mem _ member)
      simp only [List.map_cons, history, first, others]

end Plan

/-- Stores that begin alike stay alike under the two schemas, whatever statements they are given, if each makes
changes that follow from the stored rows and none leaves a status to its default: a statement is accepted by both
or refused by both, and leaves the same rows.  This holds for every way to resolve conflicts and for cells of any
kind.  The schemas admit the same rows beside the same others and have the same references.  A status that is left
to its default tells them apart, and nothing else does: the migrated schema makes of any statement what the
declared one makes of it with the status spelled out.  So a checkpoint that is inserted without a status is
refused by the declared schema, and stored as a pending one by the migrated schema if this one would be accepted. -/
theorem schemas_define_one_store (storage : Storage) (plans : List (Plan storage))
    (rowsOnly : ∀ plan ∈ plans, plan.ReadsRowsOnly) (contents : storage.Contents)
    (given : storage.StatusesGiven contents) :
    ((∀ plan ∈ plans, plan.GivesStatus) →
      Plan.history .migrated contents plans = Plan.history .declared contents plans) ∧
    Plan.history .migrated contents plans =
      Plan.history .declared contents (plans.map Plan.spelledOut) ∧
    (Schema.migrated.identities.SameRules Schema.declared.identities ∧
      Schema.migrated.checkpoints.SameRules Schema.declared.checkpoints ∧
      Schema.migrated.reference = Schema.declared.reference) ∧
    ∀ (tables : Tables) (statement : Statement),
      (¬ statement.LeavesStatus .abort →
        statement.run .migrated tables = statement.run .declared tables) ∧
      (statement.LeavesStatus .abort →
        statement.run .declared tables = none ∧
          statement.run .migrated tables = (statement.spelledOut .abort).run .declared tables ∧
          ∀ after touched, statement.run .migrated tables = some (after, touched) →
            ∃ row, row.status = .pending ∧ touched = 1 ∧
              after = { tables with
                checkpoints := place (·.identityCount) row tables.checkpoints }) := by
  have spelled := Plan.history_migrated rowsOnly given
  refine ⟨?_, spelled, ⟨Schema.sameRules_identities, Schema.sameRules_checkpoints, rfl⟩, ?_⟩
  · intro gives
    exact spelled.trans (Plan.history_spelledOut gives contents)
  · intro tables statement
    constructor
    · intro named
      rw [Statement.run_migrated, Statement.spelledOut_of_given named]
    · intro left
      exact ⟨Statement.run_declared_of_left left tables, Statement.run_migrated statement tables,
        fun _ _ => Statement.stored_pending left tables⟩

def statusless : Assignment CheckpointColumn :=
  [(.root, .bytes [7]), (.lastIdentity, .bytes [1]), (.lastLeafIndex, .integer 0),
   (.identityCount, .integer 1), (.createdAt, .time (.ofCivil { year := 2026, month := 1, day := 1 })),
   (.minedAt, .null)]

namespace Plan

def constant (changes : List Statement) (resolution : Resolution := .abort) : Plan Storage.typed :=
  { resolution, changes := fun _ _ => some changes }

def moveUp : Plan Storage.typed :=
  { changes := fun _ contents => some (contents.identities.reverse.map fun identity =>
      .identities (.update [(.leafIndex, .integer identity.leafIndex)]
        [(.leafIndex, .integer (identity.leafIndex + 1))])) }

/-- Two identities and a checkpoint; the leaves moved, which the checkpoint does not allow; two identities of
which one is in the way, left out or stopped at; the checkpoint supplanted by a mined one, then deleted; and the
leaves moved. -/
def movingUp : List (Plan Storage.typed) :=
  let identity (leafIndex : Int) (byte : UInt8) := Statement.insertIdentity { leafIndex, commitment := [byte] }
  [constant [identity 0 1], constant [identity 1 2],
   constant [.checkpoints (.insert ((.status, .text "pending") :: statusless))], moveUp,
   constant [identity 0 3, identity 2 3] .ignore, constant [identity 3 4, identity 3 5] .fail,
   constant [.checkpoints (.insert ((.status, .text "mined") :: statusless))] .replace,
   constant [.deleteCheckpoint [7]], moveUp]

end Plan

theorem schemas_define_one_store_movingUp :
    ((∀ plan ∈ Plan.movingUp, plan.ReadsRowsOnly ∧ plan.GivesStatus) ∧
      Storage.typed.StatusesGiven {}) ∧
      Plan.history .migrated {} Plan.movingUp = Plan.history .declared {} Plan.movingUp ∧
      (Plan.history .declared {} Plan.movingUp).map (·.1) =
        [some 1, some 1, some 1, none, some 1, none, some 1, some 1, some 4] ∧
      Statement.LeavesStatus .abort (.checkpoints (.insert statusless)) ∧
      (Statement.checkpoints (.insert statusless)).run .declared
        { identities := [{ leafIndex := 0, commitment := [1] }] } = none ∧
      ∃ row after, (Statement.checkpoints (.insert statusless)).run .migrated
          { identities := [{ leafIndex := 0, commitment := [1] }] } = some (after, 1) ∧
        after.checkpoints = [row] ∧ row.status = .pending := by
  have constants : ∀ changes resolution,
      (∀ change ∈ changes, ¬ change.LeavesStatus resolution) →
        (Plan.constant changes resolution).ReadsRowsOnly ∧ (Plan.constant changes resolution).GivesStatus := by
    intro changes resolution given
    refine ⟨rfl, ?_⟩
    intro contents planned same
    cases same
    exact given
  have moves : Plan.moveUp.ReadsRowsOnly ∧ Plan.moveUp.GivesStatus := by
    refine ⟨rfl, ?_⟩
    intro contents changes same change member
    cases same
    obtain ⟨identity, _, rfl⟩ := List.mem_map.mp member
    exact id
  have each : ∀ plan ∈ Plan.movingUp, plan.ReadsRowsOnly ∧ plan.GivesStatus := by
    simp only [Plan.movingUp, List.forall_mem_cons]
    exact ⟨constants _ _ (by decide), constants _ _ (by decide), constants _ _ (by decide), moves,
      constants _ _ (by decide), constants _ _ (by decide), constants _ _ (by decide),
      constants _ _ (by decide), moves, by simp⟩
  have empty : Storage.typed.StatusesGiven {} := by simp [Storage.StatusesGiven]
  have whole := schemas_define_one_store Storage.typed Plan.movingUp (fun plan member => (each plan member).1)
    {} empty
  have left : Statement.LeavesStatus .abort (.checkpoints (.insert statusless)) := by decide
  have apart := (whole.2.2.2 { identities := [{ leafIndex := 0, commitment := [1] }] }
    (.checkpoints (.insert statusless))).2 left
  exact ⟨⟨each, empty⟩, whole.1 fun plan member => (each plan member).2, by decide +kernel, left, apart.1,
    _, _, rfl, rfl, rfl⟩

/-! ## Statements for which the schemas differ -/

def Statement.NamesEveryColumn : Statement → Prop
  | .identities (.insert draft) => ∀ column, Definition.written? draft column ≠ none
  | .checkpoints (.insert draft) => ∀ column, Definition.written? draft column ≠ none
  | _ => True

namespace Plan

def NamesEveryColumn {storage : Storage} (plan : Plan storage) : Prop :=
  ∀ schema ∈ [Schema.declared, Schema.migrated], ∀ contents changes,
    plan.changes schema contents = some changes → ∀ change ∈ changes, change.NamesEveryColumn

def firstIdentity : Plan Storage.typed :=
  constant [.insertIdentity { leafIndex := 0, commitment := [1] }]

/-- The first checkpoint, with a missing status for which the default is supplied. -/
def suppliedStatus : Plan Storage.typed :=
  constant [.checkpoints (.insert ((.status, .null) :: statusless))] .replace

/-- A checkpoint at every identity, whose cells stand there in the order of the columns of their table. -/
def copiedIdentity : Plan Storage.typed :=
  { changes := fun schema contents => some (contents.identities.map fun identity =>
      let cells := schema.identities.columns.map fun rule => identityCells identity rule.column
      .checkpoints (.insert (([.lastIdentity, .lastLeafIndex].zip cells) ++
        (.status, .text "pending") :: statusless))) }

end Plan

/-- It is not enough that insertions name every column.  A missing status is refused by the declared schema and
supplied by the migrated one, and the cells of an identity come in another order. -/
theorem naming_every_column_is_not_enough :
    (∀ plan ∈ [Plan.firstIdentity, Plan.suppliedStatus, Plan.copiedIdentity], plan.NamesEveryColumn) ∧
      (Plan.history .declared {} [Plan.firstIdentity, Plan.suppliedStatus]).map (·.1) =
        [some 1, none] ∧
      (Plan.history .migrated {} [Plan.firstIdentity, Plan.suppliedStatus]).map (·.1) =
        [some 1, some 1] ∧
      (Plan.history .declared {} [Plan.firstIdentity, Plan.copiedIdentity]).map (·.1) =
        [some 1, some 1] ∧
      (Plan.history .migrated {} [Plan.firstIdentity, Plan.copiedIdentity]).map (·.1) =
        [some 1, none] := by
  have named : ∀ change resolution, change.NamesEveryColumn →
      (Plan.constant [change] resolution).NamesEveryColumn := by
    intro change resolution each schema _ contents changes same other member
    cases same
    cases List.mem_singleton.mp member
    exact each
  have copied : Plan.copiedIdentity.NamesEveryColumn := by
    intro schema either contents changes same change member
    cases same
    obtain ⟨identity, _, rfl⟩ := List.mem_map.mp member
    intro column
    have known : schema = .declared ∨ schema = .migrated := by simpa using either
    rcases known with rfl | rfl <;> cases column <;> exact Option.some_ne_none _
  refine ⟨?_, by decide +kernel, by decide +kernel, by decide +kernel, by decide +kernel⟩
  simp only [List.forall_mem_cons, List.not_mem_nil, false_implies, implies_true, and_true]
  refine ⟨named _ _ ?_, named _ _ ?_, copied⟩
  · intro column
    cases column <;> exact Option.some_ne_none _
  · intro column
    cases column <;> exact Option.some_ne_none _

end CommitmentLog.Store
