import CommitmentLog.Proofs.Store.Insertion
import CommitmentLog.Store.Plan

/-!
# What plans leave

A row that is there after a change was there before, or the definition admits it.  A plan that makes one change
and is undone when a rule is broken comes to the same as the statement itself, if no checkpoint was without its
identity before.
-/

set_option autoImplicit false

namespace CommitmentLog.Store

variable {Column Row : Type}

/-! ## The rows that a change leaves -/

theorem exists_of_mapM {First Second : Type} {step : First → Option Second} {firsts : List First}
    {seconds : List Second} (mapped : firsts.mapM step = some seconds) {second : Second}
    (member : second ∈ seconds) : ∃ first ∈ firsts, step first = some second := by
  induction firsts generalizing seconds with
  | nil =>
      cases mapped
      cases member
  | cons first rest inductionHypothesis =>
      rw [List.mapM_cons] at mapped
      obtain ⟨head, made, others⟩ := Option.bind_eq_some_iff.mp mapped
      obtain ⟨tail, later, result⟩ := Option.bind_eq_some_iff.mp others
      cases result
      rcases List.mem_cons.mp member with rfl | further
      · exact ⟨first, by simp, made⟩
      · obtain ⟨other, among, same⟩ := inductionHypothesis later further
        exact ⟨other, List.mem_cons_of_mem _ among, same⟩

section Rows

variable [DecidableEq Column] {layout : Layout Column Row} {definition : Definition Column}
  {rows after : List Row} {touched : Nat}

theorem Change.run_insert_ok {draft : Assignment Column}
    (ran : (Change.insert draft).run layout definition rows = some (after, touched)) :
    ∃ row, layout.ofCells? (definition.fill draft) = some row ∧
      definition.conforms (layout.cells row) layout.passes = true ∧
      after = place layout.order row rows ∧ touched = 1 := by
  simp only [Change.run] at ran
  split at ran
  case h_1 => cases ran
  case h_2 row read =>
    split at ran
    case isTrue taken =>
      cases ran
      exact ⟨row, read, (Bool.and_eq_true_iff.mp taken).1, rfl, rfl⟩
    case isFalse => cases ran

theorem Change.run_update_ok {selector assignment : Assignment Column}
    (accepted : (Change.update selector assignment).run layout definition rows = some (after, touched)) :
    ∃ updated, (rows.mapM fun row =>
        if selects selector (layout.cells row) then
          layout.ofCells? (Definition.assign assignment (layout.cells row))
        else some row) = some updated ∧
      admitted layout definition updated = true ∧ after = arrange layout.order updated := by
  simp only [Change.run] at accepted
  split at accepted
  case h_1 => cases accepted
  case h_2 updated mapped =>
    split at accepted
    case isTrue admits =>
      cases accepted
      exact ⟨updated, mapped, admits, rfl⟩
    case isFalse => cases accepted

theorem Change.mem_run_update {selector assignment : Assignment Column}
    (accepted : (Change.update selector assignment).run layout definition rows = some (after, touched))
    {row : Row} (member : row ∈ after) :
    ∃ old ∈ rows, row = old ∨
      layout.ofCells? (Definition.assign assignment (layout.cells old)) = some row := by
  obtain ⟨updated, mapped, _, rfl⟩ := Change.run_update_ok accepted
  obtain ⟨old, was, made⟩ :=
    exists_of_mapM mapped ((arrange_perm layout.order updated).mem_iff.mp member)
  refine ⟨old, was, ?_⟩
  split at made
  case isTrue => exact .inr made
  case isFalse => exact .inl (Option.some.inj made).symm

theorem conforms_of_replacement {cells : Cells Column} {row : Row}
    (written : replacement layout definition cells = some row) :
    layout.ofCells? (definition.supply cells) = some row ∧
      definition.conforms (layout.cells row) layout.passes = true :=
  Option.filter_eq_some_iff.mp written

omit [DecidableEq Column] in
theorem mem_supplant {row other : Row} (member : other ∈ supplant layout definition rows row) :
    other = row ∨ other ∈ rows := by
  rcases mem_place.mp member with new | kept
  · exact .inl new
  · exact .inr (List.mem_filter.mp kept).1

theorem mem_rewrite {assignment : Assignment Column} {chosen : List Row}
    (written : rewrite layout definition assignment rows chosen = some after) {row : Row}
    (member : row ∈ after) :
    row ∈ rows ∨ definition.conforms (layout.cells row) layout.passes = true := by
  induction chosen generalizing rows with
  | nil =>
      cases written
      exact .inl member
  | cons first rest inductionHypothesis =>
      obtain ⟨anew, replaced, others⟩ := Option.bind_eq_some_iff.mp written
      rcases inductionHypothesis others with old | conforms
      · rcases mem_supplant old with rfl | kept
        · exact .inr (conforms_of_replacement replaced).2
        · exact .inl kept
      · exact .inr conforms

theorem Change.mem_attempt {resolution : Resolution} {change : Change Column}
    (accepted : change.attempt layout definition resolution rows = some (after, touched)) {row : Row}
    (member : row ∈ after) :
    row ∈ rows ∨ definition.conforms (layout.cells row) layout.passes = true := by
  unfold Change.attempt at accepted
  split at accepted
  case isTrue =>
    cases change with
    | insert draft =>
        obtain ⟨anew, replaced, result⟩ := Option.bind_eq_some_iff.mp accepted
        cases result
        rcases mem_supplant member with rfl | kept
        · exact .inr (conforms_of_replacement replaced).2
        · exact .inl kept
    | update selector assignment =>
        obtain ⟨rewritten, written, result⟩ := Option.bind_eq_some_iff.mp accepted
        cases result
        rcases mem_rewrite written member with kept | conforms
        · exact .inl (List.mem_filter.mp kept).1
        · exact .inr conforms
    | delete selector =>
        cases accepted
        exact .inl (List.mem_filter.mp member).1
  case isFalse =>
    cases change with
    | insert draft =>
        obtain ⟨anew, _, conforms, rfl, _⟩ := Change.run_insert_ok accepted
        rcases mem_place.mp member with rfl | kept
        · exact .inr conforms
        · exact .inl kept
    | update selector assignment =>
        obtain ⟨updated, _, admits, rfl⟩ := Change.run_update_ok accepted
        have conform := List.all_eq_true.mp (Bool.and_eq_true_iff.mp admits).1
        exact .inr (conform row ((arrange_perm layout.order updated).mem_iff.mp member))
    | delete selector =>
        cases accepted
        exact .inl (List.mem_filter.mp member).1

end Rows

/-! ## Plans of one change -/

namespace Schema

variable {schema : Schema} {before after : Tables}

def Attached (schema : Schema) (tables : Tables) : Prop :=
  ∀ checkpoint ∈ tables.checkpoints, schema.orphaned tables.identities checkpoint = false

theorem keepsReferences_iff (attached : schema.Attached before) :
    schema.keepsReferences before after = true ↔ schema.Attached after := by
  have none : ∀ checkpoint, (before.checkpoints.any fun old =>
      schema.sameReference old checkpoint && schema.orphaned before.identities old) = false := by
    intro checkpoint
    rw [List.any_eq_false]
    intro old member
    simp [attached old member]
  simp [keepsReferences, Attached, none]

theorem not_orphaned_of_subset {checkpoint : Checkpoint} {identities others : List Identity}
    (kept : ∀ identity ∈ identities, identity ∈ others)
    (attached : schema.orphaned identities checkpoint = false) :
    schema.orphaned others checkpoint = false := by
  simp only [orphaned, Bool.not_eq_false', List.any_eq_true] at attached ⊢
  obtain ⟨identity, member, refers⟩ := attached
  exact ⟨identity, kept identity member, refers⟩

theorem orphaned_of_sameReference {identities : List Identity} {first second : Checkpoint}
    (same : schema.sameReference first second = true) :
    schema.orphaned identities first = schema.orphaned identities second := by
  have refers : schema.refers first = schema.refers second := by
    funext identity
    rw [Bool.eq_iff_iff, Schema.refers, Schema.refers, List.all_eq_true, List.all_eq_true]
    refine forall₂_congr fun pair member => ?_
    have cell := of_decide_eq_true (List.all_eq_true.mp same pair member)
    simp only [cell]
  rw [orphaned, refers, orphaned]

theorem sameReference_of_kept {assignment : Assignment CheckpointColumn} {old checkpoint : Checkpoint}
    (kept : schema.redirects assignment = false)
    (read : checkpointOfCells? (Definition.assign assignment (checkpointCells old)) = some checkpoint) :
    schema.sameReference checkpoint old = true := by
  rw [sameReference, List.all_eq_true]
  intro pair member
  have unnamed : Definition.written? assignment pair.1 = none := by
    rw [Definition.written?, Option.map_eq_none_iff, List.find?_eq_none]
    intro entry named same
    have column := List.any_eq_false.mp kept entry named
    exact column (List.any_eq_true.mpr ⟨pair, member, same⟩)
  have cell : Definition.assign assignment (checkpointCells old) pair.1 = checkpointCells old pair.1 := by
    rw [Definition.assign, unnamed, Option.getD_none]
  rw [checkpointCells_of_read read]
  exact decide_eq_true cell

end Schema

namespace Statement

theorem run_checkpoints_ok {schema : Schema} {change : Change CheckpointColumn} {tables after : Tables}
    {touched : Nat} (accepted : (checkpoints change).run schema tables = some (after, touched)) :
    ∃ rows, change.run checkpointLayout schema.checkpoints tables.checkpoints = some (rows, touched) ∧
      after = { tables with checkpoints := rows } := by
  rw [run, runUnreferenced] at accepted
  cases ran : change.run checkpointLayout schema.checkpoints tables.checkpoints with
  | none => simp [ran] at accepted
  | some outcome =>
      simp only [ran, Option.map_some] at accepted
      split at accepted
      case isTrue =>
        cases accepted
        exact ⟨outcome.1, rfl, rfl⟩
      case isFalse => cases accepted

/-- Only the rows that a statement affects have to be looked at. -/
theorem keepsReferences_eq {schema : Schema} {statement : Statement} {before after : Tables} {touched : Nat}
    (attached : schema.Attached before)
    (ran : statement.runUnreferenced schema before = some (after, touched)) :
    statement.keepsReferences schema before after = schema.keepsReferences before after := by
  cases statement with
  | identities change =>
      obtain ⟨⟨rows, count⟩, made, result⟩ := Option.map_eq_some_iff.mp ran
      cases result
      cases change with
      | insert draft =>
          obtain ⟨row, _, _, rfl, _⟩ := Change.run_insert_ok made
          refine ((Schema.keepsReferences_iff attached).mpr ?_).symm
          intro checkpoint member
          exact Schema.not_orphaned_of_subset (fun identity old => mem_place.mpr (.inr old))
            (attached checkpoint member)
      | update selector assignment => rfl
      | delete selector => rfl
  | checkpoints change =>
      obtain ⟨⟨rows, count⟩, made, result⟩ := Option.map_eq_some_iff.mp ran
      cases result
      cases change with
      | insert draft =>
          obtain ⟨row, read, _, rfl, _⟩ := Change.run_insert_ok made
          have looked : (checkpoints (.insert draft)).keepsReferences schema before
              { before with checkpoints := place checkpointLayout.order row before.checkpoints } =
                !schema.orphaned before.identities row := by
            have filled : checkpointOfCells? (schema.checkpoints.fill draft) = some row := read
            simp only [keepsReferences, filled, Option.all_some]
          rw [looked, Bool.eq_iff_iff, Schema.keepsReferences_iff attached, Bool.not_eq_true']
          constructor
          · intro here checkpoint member
            rcases mem_place.mp member with rfl | old
            · exact here
            · exact attached checkpoint old
          · intro all
            exact all row (mem_place.mpr (.inl rfl))
      | update selector assignment =>
          rw [keepsReferences]
          cases kept : schema.redirects assignment with
          | true => rfl
          | false =>
              refine ((Schema.keepsReferences_iff attached).mpr ?_).symm
              intro checkpoint member
              obtain ⟨old, was, rfl | read⟩ := Change.mem_run_update made member
              · exact attached checkpoint was
              · rw [Schema.orphaned_of_sameReference (Schema.sameReference_of_kept kept read)]
                exact attached old was
      | delete selector =>
          cases made
          refine ((Schema.keepsReferences_iff attached).mpr ?_).symm
          intro checkpoint member
          exact attached checkpoint (List.mem_filter.mp member).1

end Statement

namespace Storage

def ofTables (tables : Tables) : typed.Contents :=
  { identities := tables.identities, checkpoints := tables.checkpoints }

end Storage

namespace Plan

/-- A plan that makes one change and is undone when a rule is broken is the statement of that change. -/
theorem run_statement (schema : Schema) (statement : Statement) (tables : Tables)
    (attached : schema.Attached tables) :
    Plan.run schema { changes := fun _ _ => some [statement] } (Storage.ofTables tables) =
      match statement.run schema tables with
      | none => (none, Storage.ofTables tables)
      | some (after, touched) => (some touched, Storage.ofTables after) := by
  have attempted : statement.attempt Storage.typed schema .abort (Storage.ofTables tables) =
      (statement.runUnreferenced schema tables).map fun (after, touched) =>
        (Storage.ofTables after, touched) := by
    cases statement with
    | identities change =>
        rw [Statement.attempt, Statement.runUnreferenced, Option.map_map]
        rfl
    | checkpoints change =>
        rw [Statement.attempt, Statement.runUnreferenced, Option.map_map]
        rfl
  have carried : Plan.run schema { changes := fun _ _ => some [statement] } (Storage.ofTables tables) =
      Plan.carryOut schema .abort (Storage.ofTables tables) [statement] := rfl
  rw [carried, carryOut, Statement.run]
  simp only [runEach, attempted]
  cases ran : statement.runUnreferenced schema tables with
  | none => rfl
  | some outcome =>
      have typed : Storage.typed.keepsReferences schema (Storage.ofTables tables)
          (Storage.ofTables outcome.1) = schema.keepsReferences tables outcome.1 := rfl
      have references := Statement.keepsReferences_eq attached ran
      simp only [Option.map_some, typed, references]
      split <;> rfl

end Plan

end CommitmentLog.Store
