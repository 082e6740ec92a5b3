import CommitmentLog.Proofs.Tree.Node
import CommitmentLog.Tree.Basic

/-!
# What the frontier holds

The state after a list of leaves is known exactly: at each level the frontier holds the left node that the
last leaf has reached, and the root is the root of the padded tree.  `append_stateOver` is the step that
carries this through one append, and `rebuild_eq` the conclusion: rebuilding succeeds for the lists that
fit and for no others.

Appending reads a slot only at a level where the digit of the size is one.  There the last leaf has just
completed the node of the slot, and the new leaf begins the node on its right.
-/

set_option autoImplicit false

namespace CommitmentLog.Tree.Shape

variable {α : Type} (shape : Shape α)

/-- The left node that the last leaf has reached at a level. -/
def slot (leaves : List α) (level : Nat) : α :=
  shape.node leaves level (2 * ((leaves.length - 1) / 2 ^ (level + 1)))

/-- The state that a list of leaves ought to leave behind. -/
def stateOver (leaves : List α) : State α :=
  { size := leaves.length
    frontier := (List.range' 0 shape.depth).map (shape.slot leaves)
    root := shape.rootOver leaves }

theorem capacity_eq : shape.capacity = 2 ^ shape.depth := rfl

@[simp] theorem stateOver_size (leaves : List α) : (shape.stateOver leaves).size = leaves.length := rfl

@[simp] theorem stateOver_root (leaves : List α) :
    (shape.stateOver leaves).root = shape.rootOver leaves := rfl

/-! ## The start -/

theorem take_paddingsAbove (level count : Nat) :
    (paddingsAbove shape.parent count (shape.padding level)).take count =
      (List.range' level count).map shape.padding := by
  induction count generalizing level with
  | zero => rfl
  | succ count inductionHypothesis =>
      have above := inductionHypothesis (level + 1)
      rw [padding] at above
      simp only [paddingsAbove, List.take_succ_cons, List.range'_succ, List.map_cons, above]

theorem take_paddings :
    shape.paddings.take shape.depth = (List.range' 0 shape.depth).map shape.padding :=
  shape.take_paddingsAbove 0 shape.depth

theorem slot_nil (level : Nat) : shape.slot [] level = shape.padding level :=
  shape.node_nil level _

theorem empty_eq : shape.empty = shape.stateOver [] := by
  have slots : (List.range' 0 shape.depth).map shape.padding =
      (List.range' 0 shape.depth).map (shape.slot []) := by
    simp only [List.map_inj_left]
    intro level _
    exact (shape.slot_nil level).symm
  simp only [empty, stateOver, take_paddings, slots, rootOver_nil, List.length_nil, Nat.cast_zero]

/-! ## One append -/

theorem div_pow_succ (size level : Nat) : size / 2 ^ (level + 1) = size / 2 ^ level / 2 := by
  rw [pow_succ, Nat.div_div_eq_div_mul]

theorem reached_of_odd (size level : Nat) (odd : size / 2 ^ level % 2 = 1) :
    (size - 1) / 2 ^ (level + 1) = size / 2 ^ (level + 1) := by
  have positive : 0 < 2 ^ level := Nat.two_pow_pos level
  have whole : 2 ^ level * (size / 2 ^ level) ≤ size := Nat.mul_div_le size (2 ^ level)
  have upper : (size - 1) / 2 ^ level ≤ size / 2 ^ level :=
    Nat.div_le_div_right (Nat.sub_le size 1)
  have lower : size / 2 ^ level - 1 ≤ (size - 1) / 2 ^ level := by
    rw [Nat.le_div_iff_mul_le positive, Nat.sub_mul, Nat.one_mul, Nat.mul_comm]
    omega
  rw [div_pow_succ, div_pow_succ]
  omega

theorem slot_of_odd (leaves : List α) (leaf : α) (level : Nat)
    (odd : leaves.length / 2 ^ level % 2 = 1) :
    shape.slot leaves level =
      shape.node (leaves ++ [leaf]) level (2 * (leaves.length / 2 ^ (level + 1))) := by
  have position : 2 * (leaves.length / 2 ^ (level + 1)) + 1 = leaves.length / 2 ^ level := by
    rw [div_pow_succ]
    omega
  have complete : (2 * (leaves.length / 2 ^ (level + 1)) + 1) * 2 ^ level ≤ leaves.length := by
    rw [position]
    exact Nat.div_mul_le_self leaves.length (2 ^ level)
  rw [slot, reached_of_odd leaves.length level odd]
  exact (shape.node_append leaves [leaf] level _ complete).symm

theorem slot_append (leaves : List α) (leaf : α) (level : Nat) :
    shape.slot (leaves ++ [leaf]) level =
      shape.node (leaves ++ [leaf]) level (2 * (leaves.length / 2 ^ (level + 1))) := by
  simp [slot]

theorem node_right_of_last (leaves : List α) (leaf : α) (level : Nat) :
    shape.node (leaves ++ [leaf]) level (leaves.length / 2 ^ level + 1) = shape.padding level := by
  apply node_of_length_le
  have below : leaves.length < 2 ^ level * (leaves.length / 2 ^ level + 1) :=
    Nat.lt_mul_div_succ leaves.length (Nat.two_pow_pos level)
  rw [List.length_append, List.length_singleton, Nat.mul_comm]
  exact below

/-- Climbing turns the slots of a list into those of the list with one more leaf, and the node above the
new leaf at one level into the node above it at the highest level. -/
theorem climb_slots (leaves : List α) (leaf : α) (level count : Nat) :
    climb shape.parent ((List.range' level count).map shape.padding)
        ((List.range' level count).map (shape.slot leaves)) ((leaves.length / 2 ^ level : Nat) : Int)
        (shape.node (leaves ++ [leaf]) level (leaves.length / 2 ^ level)) =
      .ok ((List.range' level count).map (shape.slot (leaves ++ [leaf])),
        shape.node (leaves ++ [leaf]) (level + count) (leaves.length / 2 ^ (level + count))) := by
  induction count generalizing level with
  | zero => simp [climb]
  | succ count inductionHypothesis =>
      have halved := div_pow_succ leaves.length level
      have digits : ((leaves.length / 2 ^ level : Nat) : Int) / 2 =
          ((leaves.length / 2 ^ (level + 1) : Nat) : Int) := by omega
      have above := inductionHypothesis (level + 1)
      rw [node, Nat.add_right_comm level 1 count] at above
      simp only [List.range'_succ, List.map_cons, climb, digits]
      by_cases even : leaves.length / 2 ^ level % 2 = 0
      · -- The new leaf begins a left node: it enters the slot and is paired with padding.
        have position : 2 * (leaves.length / 2 ^ (level + 1)) = leaves.length / 2 ^ level := by omega
        rw [position, node_right_of_last] at above
        rw [if_pos (by omega), above, slot_append, position]
        rfl
      · -- The left node is complete and waits in the slot.
        have position : 2 * (leaves.length / 2 ^ (level + 1)) + 1 = leaves.length / 2 ^ level := by
          omega
        rw [position] at above
        rw [if_neg (by omega), shape.slot_of_odd leaves leaf level (by omega), above, slot_append]
        rfl

theorem append_stateOver (leaves : List α) (leaf : α) (room : leaves.length < shape.capacity) :
    shape.append (shape.stateOver leaves) leaf = .ok (shape.stateOver (leaves ++ [leaf])) := by
  have start : shape.node (leaves ++ [leaf]) 0 (leaves.length / 2 ^ 0) = leaf := by
    simp [node, leafAt]
  have top : leaves.length / 2 ^ (0 + shape.depth) = 0 := by
    rw [Nat.zero_add]
    exact Nat.div_eq_of_lt room
  have climbed := shape.climb_slots leaves leaf 0 shape.depth
  rw [start, top, pow_zero, Nat.div_one, Nat.zero_add] at climbed
  have notFull : ¬(shape.capacity : Int) ≤ leaves.length := by omega
  simp [append, stateOver, take_paddings, climbed, notFull, rootOver]

theorem append_of_full (state : State α) (leaf : α) (full : (shape.capacity : Int) ≤ state.size) :
    shape.append state leaf = .error (.full shape.depth) := by
  rw [append, if_pos full]

/-! ## Whole lists -/

theorem appendAll_stateOver (known rest : List α) (fits : known.length ≤ shape.capacity) :
    shape.appendAll (shape.stateOver known) rest =
      if known.length + rest.length ≤ shape.capacity then .ok (shape.stateOver (known ++ rest))
      else .error (.full shape.depth) := by
  induction rest generalizing known with
  | nil => simp [appendAll, fits]
  | cons leaf rest inductionHypothesis =>
      by_cases room : known.length < shape.capacity
      · have extended : (known ++ [leaf]).length ≤ shape.capacity := by
          rw [List.length_append, List.length_singleton]
          exact room
        rw [appendAll, shape.append_stateOver known leaf room]
        simp only
        rw [inductionHypothesis (known ++ [leaf]) extended]
        simp [Nat.add_assoc, Nat.add_comm 1 rest.length]
      · have full : (shape.capacity : Int) ≤ (shape.stateOver known).size := by
          simp only [stateOver]
          omega
        rw [appendAll, shape.append_of_full _ leaf full]
        simp only [List.length_cons]
        rw [if_neg (by omega)]

theorem rebuild_eq (leaves : List α) :
    shape.rebuild leaves =
      if leaves.length ≤ shape.capacity then .ok (shape.stateOver leaves)
      else .error (.full shape.depth) := by
  rw [rebuild, empty_eq, shape.appendAll_stateOver [] leaves (Nat.zero_le _)]
  simp

theorem rebuild_ok {leaves : List α} {state : State α} (rebuilt : shape.rebuild leaves = .ok state) :
    leaves.length ≤ shape.capacity ∧ state = shape.stateOver leaves := by
  rw [rebuild_eq] at rebuilt
  split at rebuilt
  case isTrue fits =>
    cases rebuilt
    exact ⟨fits, rfl⟩
  case isFalse => cases rebuilt

end CommitmentLog.Tree.Shape
