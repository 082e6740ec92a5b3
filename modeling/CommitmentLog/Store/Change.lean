import CommitmentLog.Store.Definition

/-!
# Changes of one table

A change inserts a row, updates the selected rows, or deletes them.  A definition accepts a change when
the rows it leaves conform and no two of them clash; otherwise the table stays as it was.  How the rows of
a table are laid out in cells, and by which integer they are ordered, is given by a `Layout`.
-/

set_option autoImplicit false

namespace CommitmentLog.Store

structure Layout (Column Row : Type) where
  cells : Row → Cells Column
  /-- The row that these cells make, if each of them can be kept in its column. -/
  ofCells? : Cells Column → Option Row
  order : Row → Int
  /-- How the checks read cells. -/
  passes : Check Column → Cells Column → Bool := Check.passes

inductive Change (Column : Type) where
  | insert (draft : Assignment Column)
  | update (selector : Assignment Column) (assignment : Assignment Column)
  | delete (selector : Assignment Column)

variable {Column Row : Type}

/-- The rows with one more, which stands before the first row of a higher order. -/
def place (order : Row → Int) (row : Row) : List Row → List Row
  | [] => [row]
  | first :: rest => if order row < order first then row :: first :: rest else first :: place order row rest

def arrange (order : Row → Int) (rows : List Row) : List Row :=
  rows.foldr (place order) []

theorem place_perm (order : Row → Int) (row : Row) (rows : List Row) :
    (place order row rows).Perm (row :: rows) := by
  induction rows with
  | nil => exact List.Perm.refl _
  | cons first rest inner =>
      unfold place
      split
      · exact List.Perm.refl _
      · have moved : (first :: place order row rest).Perm (first :: row :: rest) := inner.cons first
        exact moved.trans (List.Perm.swap row first rest)

theorem arrange_perm (order : Row → Int) (rows : List Row) : (arrange order rows).Perm rows := by
  induction rows with
  | nil => exact List.Perm.refl _
  | cons first rest inner => exact (place_perm order first _).trans (inner.cons first)

/-- Whether a row has the selecting cells.  A missing cell selects nothing. -/
def selects (selector : Assignment Column) (row : Cells Column) : Bool :=
  selector.all fun entry => entry.2 != .null && row entry.1 = entry.2

def admitted (layout : Layout Column Row) (definition : Definition Column) (rows : List Row) : Bool :=
  (rows.all fun row => definition.conforms (layout.cells row) layout.passes) &&
    decide (rows.Pairwise fun first second =>
      definition.clash (layout.cells first) (layout.cells second) = false)

variable [DecidableEq Column]

/-- The rows after a change and the number of rows it touched; none if the definition refuses it. -/
def Change.run (layout : Layout Column Row) (definition : Definition Column) (rows : List Row) :
    Change Column → Option (List Row × Nat)
  | .insert draft =>
      match layout.ofCells? (definition.fill draft) with
      | none => none
      | some row =>
          if definition.conforms (layout.cells row) layout.passes &&
              rows.all (fun other => !definition.clash (layout.cells row) (layout.cells other)) then
            some (place layout.order row rows, 1)
          else none
  | .update selector assignment =>
      let chosen (row : Row) := selects selector (layout.cells row)
      let touched := rows.countP chosen
      match rows.mapM fun row =>
          if chosen row then layout.ofCells? (Definition.assign assignment (layout.cells row))
          else some row with
      | none => none
      | some updated =>
          if admitted layout definition updated then some (arrange layout.order updated, touched)
          else none
  | .delete selector =>
      let chosen (row : Row) := selects selector (layout.cells row)
      some (rows.filter fun row => !chosen row, rows.countP chosen)

def Change.named : Change Column → List Cell
  | .insert draft => draft.map (·.2)
  | .update selector assignment => (selector ++ assignment).map (·.2)
  | .delete selector => selector.map (·.2)

end CommitmentLog.Store
