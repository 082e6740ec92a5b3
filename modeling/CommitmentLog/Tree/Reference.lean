import CommitmentLog.Tree.Basic

/-!
# The reference tree

The tree as mathematics has it: the complete binary tree over all leaves, where a position beyond the
given list holds the padding leaf.  It keeps no frontier and saves no work.  The other ways of
computing a node are compared with this one.
-/

set_option autoImplicit false

namespace CommitmentLog.Tree.Shape

variable {α : Type}

/-- The leaf at a position, padding beyond the list. -/
def leafAt (shape : Shape α) (leaves : List α) (position : Nat) : α :=
  leaves.getD position shape.emptyLeaf

def node (shape : Shape α) (leaves : List α) : Nat → Nat → α
  | 0, position => shape.leafAt leaves position
  | level + 1, position =>
      shape.parent (shape.node leaves level (2 * position))
        (shape.node leaves level (2 * position + 1))

def rootOver (shape : Shape α) (leaves : List α) : α :=
  shape.node leaves shape.depth 0

/-- The leaves of the complete tree, padding written out.  A list that does not fit stays as it is. -/
def padded (shape : Shape α) (leaves : List α) : List α :=
  leaves ++ List.replicate (shape.capacity - leaves.length) shape.emptyLeaf

end CommitmentLog.Tree.Shape
