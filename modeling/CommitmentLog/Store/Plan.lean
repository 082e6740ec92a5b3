import CommitmentLog.Store.Statement

/-!
# Plans

A plan is a statement of any shape, as the changes of single rows that it makes one after the other, with what it
does when one of them breaks a rule.  Its conditions and expressions read the stored rows.  It may look at the
schema as well, as one does that asks for all columns of a table or for a certain index.  The references are
looked at once, when everything is done.

A plan may write any cells.  Which of them can be kept in a column, what becomes of them there and how the checks
read them is up to the engine, so it is left open here.
-/

set_option autoImplicit false

namespace CommitmentLog.Store

/-! ## Storage -/

/-- How an engine keeps the rows of both tables, whose columns are of given kinds. -/
structure Storage where
  Identity : Type
  Checkpoint : Type
  identities : (IdentityColumn → Option Kind) → Layout IdentityColumn Identity
  checkpoints : (CheckpointColumn → Option Kind) → Layout CheckpointColumn Checkpoint

namespace Storage

/-- The rows of the log itself, whose cells are all of the kinds of their columns. -/
def typed : Storage :=
  { Identity := CommitmentLog.Identity
    Checkpoint := CommitmentLog.Checkpoint
    identities := fun _ => identityLayout
    checkpoints := fun _ => checkpointLayout }

structure Contents (storage : Storage) where
  identities : List storage.Identity := []
  checkpoints : List storage.Checkpoint := []

variable (storage : Storage) (schema : Schema)

def identityLayout : Layout IdentityColumn storage.Identity :=
  storage.identities schema.identities.kind?

def checkpointLayout : Layout CheckpointColumn storage.Checkpoint :=
  storage.checkpoints schema.checkpoints.kind?

def orphaned (contents : storage.Contents) (checkpoint : storage.Checkpoint) : Bool :=
  !contents.identities.any fun identity => schema.reference.all fun (column, target) =>
    (storage.checkpointLayout schema).cells checkpoint column =
      (storage.identityLayout schema).cells identity target

/-- Whether every checkpoint without its identity was without it before. -/
def keepsReferences (before after : storage.Contents) : Bool :=
  after.checkpoints.all fun checkpoint =>
    !storage.orphaned schema after checkpoint ||
      before.checkpoints.any fun old =>
        (schema.reference.all fun (column, _) =>
          (storage.checkpointLayout schema).cells old column =
            (storage.checkpointLayout schema).cells checkpoint column) &&
          storage.orphaned schema before old

end Storage

/-! ## Changes -/

/-- What a statement does when a change of a row breaks a rule of its table. -/
inductive Resolution where
  /-- It is undone.  A transaction that is rolled back is undone as well, so this stands for both where every
  statement is a transaction of its own. -/
  | abort
  /-- It ends there.  What it has done stays. -/
  | fail
  /-- It leaves that row alone. -/
  | ignore
  /-- It puts the default in the place of a missing cell, and the rows in the way go.  Otherwise it is undone. -/
  | replace
  deriving DecidableEq, Repr

section Table

variable {Column Row : Type} [DecidableEq Column] (layout : Layout Column Row)
  (definition : Definition Column)

/-- The row that is written for some cells where missing ones are supplied, if it conforms. -/
def replacement (cells : Cells Column) : Option Row :=
  (layout.ofCells? (definition.supply cells)).filter fun row =>
    definition.conforms (layout.cells row) layout.passes

/-- The rows with one more, without those in its way. -/
def supplant (rows : List Row) (row : Row) : List Row :=
  place layout.order row
    (rows.filter fun other => !definition.clash (layout.cells row) (layout.cells other))

/-- The rows with others written anew, one after the other.  None if one of these does not conform. -/
def rewrite (assignment : Assignment Column) : List Row → List Row → Option (List Row)
  | rows, [] => some rows
  | rows, chosen :: rest => do
      let row ← replacement layout definition (Definition.assign assignment (layout.cells chosen))
      rewrite assignment (supplant layout definition rows row) rest

/-- The rows after a change to which those in its way give room, and the number of rows it touched. -/
def Change.runReplacing (rows : List Row) : Change Column → Option (List Row × Nat)
  | .insert draft => do
      let row ← replacement layout definition (definition.fill draft)
      some (supplant layout definition rows row, 1)
  | .update selector assignment => do
      let chosen (row : Row) := selects selector (layout.cells row)
      let after ← rewrite layout definition assignment (rows.filter fun row => !chosen row)
        (rows.filter chosen)
      some (after, rows.countP chosen)
  | .delete selector => (Change.delete selector).run layout definition rows

def Change.attempt (resolution : Resolution) (rows : List Row) (change : Change Column) :
    Option (List Row × Nat) :=
  if resolution = .replace then change.runReplacing layout definition rows
  else change.run layout definition rows

end Table

/-- The contents after a change and the number of rows it touched; none if it breaks a rule. -/
def Statement.attempt (storage : Storage) (schema : Schema) (resolution : Resolution)
    (contents : storage.Contents) : Statement → Option (storage.Contents × Nat)
  | .identities change =>
      (change.attempt (storage.identityLayout schema) schema.identities resolution
        contents.identities).map fun (rows, touched) =>
          ({ contents with identities := rows }, touched)
  | .checkpoints change =>
      (change.attempt (storage.checkpointLayout schema) schema.checkpoints resolution
        contents.checkpoints).map fun (rows, touched) =>
          ({ contents with checkpoints := rows }, touched)

/-! ## Plans -/

structure Plan (storage : Storage) where
  resolution : Resolution := .abort
  /-- The changes that are made, each of a single row; none if the statement fails for another reason than a
  rule of the tables. -/
  changes : Schema → storage.Contents → Option (List Statement)

namespace Plan

variable {storage : Storage} (schema : Schema)

/-- The contents after the changes and the number of rows they touched, or no number if they ended early; none if
they are undone. -/
def runEach (resolution : Resolution) :
    storage.Contents → List Statement → Option (storage.Contents × Option Nat)
  | contents, [] => some (contents, some 0)
  | contents, change :: rest =>
      match change.attempt storage schema resolution contents with
      | some (between, touched) =>
          (runEach resolution between rest).map fun (after, others) => (after, others.map (touched + ·))
      | none =>
          match resolution with
          | .fail => some (contents, none)
          | .ignore => runEach resolution contents rest
          | .abort | .replace => none

/-- The number of rows that the changes touched, none if they failed, and the contents then. -/
def carryOut (resolution : Resolution) (contents : storage.Contents) (changes : List Statement) :
    Option Nat × storage.Contents :=
  match runEach schema resolution contents changes with
  | none => (none, contents)
  | some (after, touched) =>
      if storage.keepsReferences schema contents after then (touched, after) else (none, contents)

def run (plan : Plan storage) (contents : storage.Contents) : Option Nat × storage.Contents :=
  match plan.changes schema contents with
  | none => (none, contents)
  | some changes => carryOut schema plan.resolution contents changes

def history : storage.Contents → List (Plan storage) → List (Option Nat × storage.Contents)
  | _, [] => []
  | contents, plan :: rest =>
      let outcome := plan.run schema contents
      outcome :: history outcome.2 rest

end Plan

end CommitmentLog.Store
