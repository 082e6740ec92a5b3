import CommitmentLog.Hex
import CommitmentLog.Time.Timestamp

/-!
# Table definitions

A table definition is data: the columns with the rules of their own, the rules that speak of several
columns, and the unique indexes.  A row gives every column a cell.  `Definition.conforms` says which rows
the definition admits by themselves, and `Definition.clash` which two rows it does not admit together.  A
missing cell passes every check, and two missing cells are never equal, so only `required` excludes them.
-/

set_option autoImplicit false

namespace CommitmentLog.Store

inductive Cell where
  | null
  | integer (value : Int)
  /-- A float of sixty-four bits. -/
  | real (bits : UInt64)
  | bytes (value : Bytes)
  | text (value : String)
  | time (value : Timestamp)
  deriving DecidableEq, Repr

abbrev Cells (Column : Type) : Type :=
  Column → Cell

/-- Columns with a cell for each, in any order. -/
abbrev Assignment (Column : Type) : Type :=
  List (Column × Cell)

/-- What a column is declared to hold.  No length is enforced. -/
inductive Kind where
  | integer
  | bytes (length : Nat)
  | text (length : Nat)
  | time
  deriving DecidableEq, Repr

inductive Check (Column : Type) where
  | atLeast (column : Column) (bound : Int)
  /-- The first column is one more than the second. -/
  | successor (column : Column) (base : Column)
  | oneOf (column : Column) (values : List String)

structure ColumnRule (Column : Type) where
  column : Column
  kind : Kind
  /-- Whether the cell must not be missing. -/
  required : Bool := true
  key : Bool := false
  /-- Whether no two rows share the cell. -/
  unique : Bool := false
  values : Option (List String) := none
  default : Cell := .null

structure Definition (Column : Type) where
  name : String
  columns : List (ColumnRule Column)
  /-- Groups of columns that no two rows share. -/
  unique : List (List Column) := []
  checks : List (Check Column) := []
  uniqueIndexes : List (List Column) := []

variable {Column : Type}

/-- Whether a row passes a check, if its cells are of the kinds that the check expects. -/
def Check.passes (check : Check Column) (row : Cells Column) : Bool :=
  match check with
  | .atLeast column bound =>
      match row column with
      | .null => true
      | .integer value => bound ≤ value
      | _ => false
  | .successor column base =>
      match row column, row base with
      | .null, _ => true
      | _, .null => true
      | .integer value, .integer other => value = other + 1
      | _, _ => false
  | .oneOf column values =>
      match row column with
      | .null => true
      | .text value => values.contains value
      | _ => false

def ColumnRule.admits (rule : ColumnRule Column) (row : Cells Column)
    (passes : Check Column → Cells Column → Bool := Check.passes) : Bool :=
  !((rule.required || rule.key) && row rule.column = .null) &&
    match rule.values with
    | none => true
    | some values => passes (.oneOf rule.column values) row

namespace Definition

def keyColumns (definition : Definition Column) : List Column :=
  (definition.columns.filter (·.key)).map (·.column)

def distinct (definition : Definition Column) : List (List Column) :=
  definition.keyColumns :: ((definition.columns.filter (·.unique)).map fun rule => [rule.column]) ++
    definition.unique ++ definition.uniqueIndexes

/-- Whether a row is admitted as far as no other row is concerned. -/
def conforms (definition : Definition Column) (row : Cells Column)
    (passes : Check Column → Cells Column → Bool := Check.passes) : Bool :=
  definition.columns.all (·.admits row passes) && definition.checks.all (passes · row)

def share (columns : List Column) (first second : Cells Column) : Bool :=
  columns.all fun column => first column != .null && first column = second column

def clash (definition : Definition Column) (first second : Cells Column) : Bool :=
  definition.distinct.any fun columns => share columns first second

variable [DecidableEq Column]

def written? (assignment : Assignment Column) (column : Column) : Option Cell :=
  (assignment.find? fun entry => entry.1 = column).map (·.2)

def assign (assignment : Assignment Column) (row : Cells Column) : Cells Column := fun column =>
  (written? assignment column).getD (row column)

def rule? (definition : Definition Column) (column : Column) : Option (ColumnRule Column) :=
  definition.columns.find? fun rule => rule.column = column

def kind? (definition : Definition Column) (column : Column) : Option Kind :=
  (definition.rule? column).map (·.kind)

def defaultCell (definition : Definition Column) (column : Column) : Cell :=
  match definition.rule? column with
  | some rule => rule.default
  | none => .null

def fill (definition : Definition Column) (draft : Assignment Column) : Cells Column :=
  assign draft definition.defaultCell

/-- The row with the default of its column for each missing cell that must not be missing. -/
def supply (definition : Definition Column) (row : Cells Column) : Cells Column := fun column =>
  if row column = .null ∧ (definition.rule? column).any (fun rule => rule.required || rule.key) then
    definition.defaultCell column
  else row column

end Definition

end CommitmentLog.Store
