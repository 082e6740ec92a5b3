import CommitmentLog.Tree.Reference
import Mathlib.Tactic.Ring

/-!
# Nodes of the padded tree

A node of the reference tree depends on the leaves below it and on nothing else.  Two consequences carry
all that follows: a node above no leaf of the list is the padding of its level, and a node whose leaves
are all set does not change when more leaves are appended.
-/

set_option autoImplicit false

namespace CommitmentLog.Tree.Shape

variable {α : Type} (shape : Shape α)

theorem node_congr (first second : List α) (level position : Nat)
    (agree : ∀ leaf, position * 2 ^ level ≤ leaf → leaf < (position + 1) * 2 ^ level →
      shape.leafAt first leaf = shape.leafAt second leaf) :
    shape.node first level position = shape.node second level position := by
  induction level generalizing position with
  | zero => exact agree position (by simp) (by simp)
  | succ level inductionHypothesis =>
      -- The leaves below the node are those below its left child, then those below its right child.
      have start : position * 2 ^ (level + 1) = 2 * position * 2 ^ level := by ring
      have middle : (2 * position + 1) * 2 ^ level = 2 * position * 2 ^ level + 2 ^ level := by ring
      have stop : (position + 1) * 2 ^ (level + 1) = (2 * position + 1 + 1) * 2 ^ level := by ring
      have stop' : (2 * position + 1 + 1) * 2 ^ level =
          2 * position * 2 ^ level + 2 ^ level + 2 ^ level := by ring
      rw [start, stop] at agree
      have left : shape.node first level (2 * position) = shape.node second level (2 * position) := by
        apply inductionHypothesis
        intro leaf lower upper
        exact agree leaf lower (by omega)
      have right : shape.node first level (2 * position + 1) =
          shape.node second level (2 * position + 1) := by
        apply inductionHypothesis
        intro leaf lower upper
        exact agree leaf (by omega) upper
      rw [node, node, left, right]

theorem node_nil (level position : Nat) : shape.node [] level position = shape.padding level := by
  induction level generalizing position with
  | zero => simp [node, leafAt, padding]
  | succ level inductionHypothesis => simp [node, padding, inductionHypothesis]

theorem node_of_length_le (leaves : List α) (level position : Nat)
    (behind : leaves.length ≤ position * 2 ^ level) :
    shape.node leaves level position = shape.padding level := by
  rw [← shape.node_nil level position]
  apply node_congr
  intro leaf lower _
  have outside : leaves.length ≤ leaf := le_trans behind lower
  simp [leafAt, outside]

theorem node_append (leaves more : List α) (level position : Nat)
    (covered : (position + 1) * 2 ^ level ≤ leaves.length) :
    shape.node (leaves ++ more) level position = shape.node leaves level position := by
  apply node_congr
  intro leaf _ upper
  have inside : leaf < leaves.length := lt_of_lt_of_le upper covered
  simp [leafAt, List.getElem?_append_left inside]

theorem node_append_emptyLeaf (leaves : List α) (count level position : Nat) :
    shape.node (leaves ++ List.replicate count shape.emptyLeaf) level position =
      shape.node leaves level position := by
  apply node_congr
  intro leaf _ _
  rcases Nat.lt_or_ge leaf leaves.length with inside | behind
  · simp [leafAt, List.getElem?_append_left inside]
  · have outside : leaves[leaf]? = none := List.getElem?_eq_none behind
    simp only [leafAt, List.getD_eq_getElem?_getD, List.getElem?_append_right behind, outside,
      List.getElem?_replicate]
    split <;> rfl

theorem rootOver_append_emptyLeaf (leaves : List α) :
    shape.rootOver (leaves ++ [shape.emptyLeaf]) = shape.rootOver leaves :=
  shape.node_append_emptyLeaf leaves 1 shape.depth 0

theorem node_padded (leaves : List α) (level position : Nat) :
    shape.node (shape.padded leaves) level position = shape.node leaves level position :=
  shape.node_append_emptyLeaf leaves _ level position

theorem rootOver_nil : shape.rootOver [] = shape.padding shape.depth :=
  shape.node_nil shape.depth 0

end CommitmentLog.Tree.Shape
