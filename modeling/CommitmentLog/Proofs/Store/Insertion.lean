import CommitmentLog.Store.Write
import Mathlib.Data.List.Pairwise

/-!
# Inserting a row

What the two insertions of the log come to: the new row stands among the others in the order of its
table, and nothing else has changed.  An insertion is carried out exactly if the definition takes the row
beside those that are there and, for a checkpoint, the identity it refers to is stored.
-/

set_option autoImplicit false

namespace CommitmentLog.Store

variable {Column Row : Type}

/-! ## Places -/

theorem place_of_last (order : Row → Int) (row : Row) (rows : List Row)
    (last : ∀ other ∈ rows, order other ≤ order row) : place order row rows = rows ++ [row] := by
  induction rows with
  | nil => rfl
  | cons first rest inductionHypothesis =>
      have notBefore : ¬order row < order first := by
        have above := last first (by simp)
        omega
      rw [place, if_neg notBefore, inductionHypothesis fun other member =>
        last other (List.mem_cons_of_mem first member)]
      rfl

theorem mem_place {order : Row → Int} {row other : Row} {rows : List Row} :
    other ∈ place order row rows ↔ other = row ∨ other ∈ rows := by
  rw [(place_perm order row rows).mem_iff, List.mem_cons]

theorem pairwise_place (order : Row → Int) (row : Row) (rows : List Row)
    (ordered : rows.Pairwise fun first second => order first < order second)
    (apart : ∀ other ∈ rows, order row ≠ order other) :
    (place order row rows).Pairwise fun first second => order first < order second := by
  induction rows with
  | nil => exact List.pairwise_singleton _ _
  | cons first rest inductionHypothesis =>
      obtain ⟨least, restOrdered⟩ := List.pairwise_cons.mp ordered
      have differs := apart first (by simp)
      rw [place]
      split
      case isTrue before =>
        refine List.pairwise_cons.mpr ⟨?_, ordered⟩
        intro other member
        rcases List.mem_cons.mp member with rfl | later
        · exact before
        · have above := least other later
          omega
      case isFalse behind =>
        have placed := inductionHypothesis restOrdered fun other member =>
          apart other (List.mem_cons_of_mem first member)
        refine List.pairwise_cons.mpr ⟨?_, placed⟩
        intro other member
        rcases mem_place.mp member with rfl | later
        · omega
        · exact least other later

/-! ## Rows and cells -/

theorem identityOfCells?_cells (identity : Identity) :
    identityOfCells? (identityCells identity) = some identity := rfl

theorem optionalTime?_cell (minedAt : Option Timestamp) :
    optionalTime? ((minedAt.map Cell.time).getD .null) = some minedAt := by
  cases minedAt <;> rfl

theorem checkpointOfCells?_cells (checkpoint : Checkpoint) :
    checkpointOfCells? (checkpointCells checkpoint) = some checkpoint := by
  simp [checkpointOfCells?, checkpointCells, status?, Status.ofText?_text, optionalTime?_cell]

theorem time_of_optionalTime? {cell : Cell} {time : Option Timestamp} (read : optionalTime? cell = some time) :
    (time.map Cell.time).getD .null = cell := by
  unfold optionalTime? at read
  split at read
  case h_1 => cases read; rfl
  case h_2 => cases read; rfl
  case h_3 => cases read

theorem text_of_status? {cell : Cell} {status : Status} (read : status? cell = some status) :
    .text status.text = cell := by
  unfold status? at read
  split at read
  case h_1 =>
    have found := List.find?_some read
    rw [of_decide_eq_true found]
  case h_2 => cases read

theorem checkpointCells_of_read {cells : Cells CheckpointColumn} {checkpoint : Checkpoint}
    (read : checkpointOfCells? cells = some checkpoint) : checkpointCells checkpoint = cells := by
  unfold checkpointOfCells? at read
  split at read
  case h_1 root lastIdentity lastLeafIndex identityCount status createdAt minedAt =>
    cases read
    funext column
    cases column with
    | root => exact root.symm
    | lastIdentity => exact lastIdentity.symm
    | lastLeafIndex => exact lastLeafIndex.symm
    | identityCount => exact identityCount.symm
    | status => exact text_of_status? status
    | createdAt => exact createdAt.symm
    | minedAt => exact time_of_optionalTime? minedAt
  case h_2 => cases read

/-! ## Insertions -/

def Definition.takes (definition : Definition Column) (layout : Layout Column Row) (rows : List Row)
    (row : Row) : Bool :=
  definition.conforms (layout.cells row) layout.passes &&
    rows.all fun other => !definition.clash (layout.cells row) (layout.cells other)

theorem Change.run_insert [DecidableEq Column] (layout : Layout Column Row)
    (definition : Definition Column) (rows : List Row) (draft : Assignment Column) (row : Row)
    (filled : definition.fill draft = layout.cells row)
    (read : layout.ofCells? (layout.cells row) = some row) :
    (Change.insert draft).run layout definition rows =
      if definition.takes layout rows row then some (place layout.order row rows, 1) else none := by
  simp only [Change.run, filled, read]
  rfl

namespace Statement

variable (schema : Schema) (tables : Tables)

theorem run_insertIdentity (identity : Identity) :
    (insertIdentity identity).run schema tables =
      if schema.identities.takes identityLayout tables.identities identity then
        some ({ tables with identities := place (·.leafIndex) identity tables.identities }, 1)
      else none := by
  have filled : schema.identities.fill
      [(.leafIndex, .integer identity.leafIndex), (.commitment, .bytes identity.commitment)] =
        identityLayout.cells identity := by
    funext column
    cases column <;> rfl
  have inserted := Change.run_insert identityLayout schema.identities tables.identities _ identity
    filled (identityOfCells?_cells identity)
  rw [run, insertIdentity, runUnreferenced, inserted]
  cases schema.identities.takes identityLayout tables.identities identity <;> rfl

theorem run_insertCheckpoint (checkpoint : Checkpoint) :
    (insertCheckpoint checkpoint).run schema tables =
      if schema.checkpoints.takes checkpointLayout tables.checkpoints checkpoint &&
          !schema.orphaned tables.identities checkpoint then
        some ({ tables with checkpoints := place (·.identityCount) checkpoint tables.checkpoints }, 1)
      else none := by
  have filled : schema.checkpoints.fill
      (([.root, .lastIdentity, .lastLeafIndex, .identityCount, .status, .createdAt, .minedAt] :
        List CheckpointColumn).map fun column => (column, checkpointCells checkpoint column)) =
        checkpointLayout.cells checkpoint := by
    funext column
    cases column <;> rfl
  have read := checkpointOfCells?_cells checkpoint
  have inserted := Change.run_insert checkpointLayout schema.checkpoints tables.checkpoints _
    checkpoint filled read
  rw [run, insertCheckpoint, runUnreferenced, inserted]
  cases schema.checkpoints.takes checkpointLayout tables.checkpoints checkpoint with
  | false => rfl
  | true =>
      simp only [keepsReferences, filled, checkpointLayout, read]
      rfl

end Statement

end CommitmentLog.Store

namespace CommitmentLog.Conditions

open Store

variable {conditions : Conditions} {schema : Schema} {offset : Nat} {tables after : Tables}

theorem write_ok {statement : Statement}
    (written : conditions.write schema offset tables statement = .ok after) :
    ∃ touched, statement.run schema tables = some (after, touched) := by
  unfold write at written
  split at written
  · cases written
  · split at written
    · cases written
    · cases written
      exact ⟨_, by assumption⟩

theorem write_insertIdentity_ok {identity : Identity}
    (written : conditions.write schema offset tables (.insertIdentity identity) = .ok after) :
    schema.identities.takes identityLayout tables.identities identity = true ∧
      after = { tables with identities := place (·.leafIndex) identity tables.identities } := by
  obtain ⟨touched, ran⟩ := write_ok written
  rw [Statement.run_insertIdentity] at ran
  split at ran
  case isTrue taken =>
    cases ran
    exact ⟨taken, rfl⟩
  case isFalse => cases ran

theorem write_insertCheckpoint_ok {checkpoint : Checkpoint}
    (written : conditions.write schema offset tables (.insertCheckpoint checkpoint) = .ok after) :
    schema.checkpoints.takes checkpointLayout tables.checkpoints checkpoint = true ∧
      after = { tables with checkpoints := place (·.identityCount) checkpoint tables.checkpoints } := by
  obtain ⟨touched, ran⟩ := write_ok written
  rw [Statement.run_insertCheckpoint] at ran
  split at ran
  case isTrue accepted =>
    cases ran
    exact ⟨(Bool.and_eq_true_iff.mp accepted).1, rfl⟩
  case isFalse => cases ran

end CommitmentLog.Conditions
