import CommitmentLog.Proofs.Tree.Layers
import Mathlib.Data.Int.Bitwise

/-!
# The slots that are read

The frontier has one slot for each level.  On every level the last leaf stands below one of two siblings, and
the slot holds the left one, so the state over a list can be written down without appending.

The next append reads few of these slots: those at whose level the digit of the size is one.  Every other
slot is written over before anything could read it.  Two states of one size that agree in the slots that are
read therefore have the same successor, whatever else they hold, and `append_congr` is this step.
-/

set_option autoImplicit false

namespace CommitmentLog.Tree.Shape

variable {α : Type} (shape : Shape α)

/-! ## What the slots hold -/

/-- Of the two positions below one parent the left one, found from either of them. -/
def leftOf (position : Nat) : Nat :=
  if position % 2 = 0 then position else position - 1

theorem leftOf_eq (position : Nat) : leftOf position = 2 * (position / 2) := by
  unfold leftOf
  split <;> omega

theorem slot_eq_node_leftOf (leaves : List α) (level : Nat) :
    shape.slot leaves level = shape.node leaves level (leftOf ((leaves.length - 1) >>> level)) := by
  rw [slot, leftOf_eq, Nat.shiftRight_eq_div_pow, div_pow_succ]

theorem stateOver_frontier_getElem? (leaves : List α) (level : Nat) (inside : level < shape.depth) :
    (shape.stateOver leaves).frontier[level]? = some (shape.slot leaves level) := by
  simp [stateOver, inside]

theorem stateOver_length_frontier (leaves : List α) :
    (shape.stateOver leaves).frontier.length = shape.depth := by
  simp [stateOver]

/-! ## What an append reads -/

/-- Two states of one size that agree in every slot that the next append reads. -/
structure ReadAlike (first second : State α) : Prop where
  size : first.size = second.size
  firstSlots : first.frontier.length = shape.depth
  secondSlots : second.frontier.length = shape.depth
  slots : ∀ level, first.size.testBit level = true → first.frontier[level]? = second.frontier[level]?

theorem testBit_zero_of_odd (digits : Int) (odd : ¬digits % 2 = 0) : digits.testBit 0 = true := by
  have lowest := Int.testBit_bit_zero digits.bodd digits.div2
  have whole := Int.bodd_add_div2 digits
  rw [Int.bit_decomp] at lowest
  rw [lowest]
  cases parity : digits.bodd with
  | true => rfl
  | false =>
      rw [parity, cond_false] at whole
      omega

theorem testBit_half (digits : Int) (level : Nat) :
    (digits / 2).testBit level = digits.testBit (level + 1) := by
  have shifted := Int.testBit_bit_succ level digits.bodd digits.div2
  rw [Int.bit_decomp, Int.div2_val] at shifted
  exact shifted.symm

theorem climb_answers (parent : α → α → α) (paddings slots : List α) (digits : Int) (node : α)
    (enough : paddings.length ≤ slots.length) :
    ∃ frontier top, climb parent paddings slots digits node = .ok (frontier, top) ∧
      frontier.length = slots.length := by
  induction paddings generalizing slots digits node with
  | nil => exact ⟨slots, node, rfl, rfl⟩
  | cons padding paddings inductionHypothesis =>
      cases slots with
      | nil => simp at enough
      | cons slot slots =>
          have rest : paddings.length ≤ slots.length := Nat.le_of_succ_le_succ enough
          by_cases even : digits % 2 = 0
          · obtain ⟨above, top, climbed, length⟩ :=
              inductionHypothesis slots (digits / 2) (parent node padding) rest
            refine ⟨node :: above, top, ?_, congrArg Nat.succ length⟩
            rw [climb, if_pos even, climbed]
          · obtain ⟨above, top, climbed, length⟩ :=
              inductionHypothesis slots (digits / 2) (parent slot node) rest
            refine ⟨slot :: above, top, ?_, congrArg Nat.succ length⟩
            rw [climb, if_neg even, climbed]

/-- Climbing goes the same way through slots that agree where the digit is one.  At a zero digit the node
takes the place of the slot, so the new slots agree everywhere. -/
theorem climb_congr (parent : α → α → α) (paddings first second : List α) (digits : Int) (node : α)
    (sameLength : first.length = second.length) (within : first.length ≤ paddings.length)
    (agree : ∀ level, digits.testBit level = true → first[level]? = second[level]?) :
    climb parent paddings first digits node = climb parent paddings second digits node := by
  induction paddings generalizing first second digits node with
  | nil =>
      have noFirst : first = [] := List.eq_nil_of_length_eq_zero (Nat.le_zero.mp within)
      have noSecond : second = [] := List.eq_nil_of_length_eq_zero (by rw [← sameLength, noFirst]; rfl)
      rw [noFirst, noSecond]
  | cons padding paddings inductionHypothesis =>
      cases first with
      | nil =>
          have noSecond : second = [] := List.eq_nil_of_length_eq_zero sameLength.symm
          rw [noSecond]
      | cons one first =>
          cases second with
          | nil => cases sameLength
          | cons other second =>
              -- What is above this level sees the slots of the rest and the digits of the half.
              have above (next : α) :
                  climb parent paddings first (digits / 2) next =
                    climb parent paddings second (digits / 2) next := by
                apply inductionHypothesis
                · exact Nat.succ.inj sameLength
                · exact Nat.le_of_succ_le_succ within
                · intro level isOne
                  rw [testBit_half] at isOne
                  exact agree (level + 1) isOne
              by_cases even : digits % 2 = 0
              · rw [climb, climb, if_pos even, if_pos even, above]
              · have same : some one = some other := agree 0 (testBit_zero_of_odd digits even)
                cases same
                rw [climb, climb, if_neg even, if_neg even, above]

theorem length_take_paddings : (shape.paddings.take shape.depth).length = shape.depth := by
  simp [take_paddings]

theorem append_answers (state : State α) (leaf : α) (slots : state.frontier.length = shape.depth)
    (room : state.size < (shape.capacity : Int)) :
    ∃ next, shape.append state leaf = .ok next ∧ next.size = state.size + 1 ∧
      next.frontier.length = shape.depth := by
  obtain ⟨frontier, top, climbed, length⟩ :=
    climb_answers shape.parent (shape.paddings.take shape.depth) state.frontier state.size leaf
      (by rw [length_take_paddings, slots])
  refine ⟨{ size := state.size + 1, frontier, root := top }, ?_, rfl, length.trans slots⟩
  rw [append, if_neg (Int.not_le.mpr room), climbed]

theorem readAlike_refl {state : State α} (slots : state.frontier.length = shape.depth) :
    shape.ReadAlike state state :=
  { size := rfl, firstSlots := slots, secondSlots := slots, slots := fun _ _ => rfl }

variable {shape} {first second : State α}

theorem append_congr (alike : shape.ReadAlike first second) (leaf : α) :
    shape.append first leaf = shape.append second leaf := by
  have climbed := climb_congr shape.parent (shape.paddings.take shape.depth) first.frontier
    second.frontier first.size leaf (alike.firstSlots.trans alike.secondSlots.symm)
    (by rw [length_take_paddings, alike.firstSlots]) alike.slots
  rw [append, append, climbed, alike.size]

theorem appendAll_congr (alike : shape.ReadAlike first second) (leaf : α) (rest : List α) :
    shape.appendAll first (leaf :: rest) = shape.appendAll second (leaf :: rest) := by
  rw [appendAll, appendAll, append_congr alike leaf]

theorem append_readAlike (alike : shape.ReadAlike first second) (room : first.size < 2 ^ shape.depth)
    (leaf : α) :
    ∃ one other, shape.append first leaf = .ok one ∧ shape.append second leaf = .ok other ∧
      one.size = first.size + 1 ∧ one.root = other.root ∧ shape.ReadAlike one other := by
  have notFull : first.size < (shape.capacity : Int) := by
    rw [capacity_eq]
    exact_mod_cast room
  obtain ⟨next, appended, size, slots⟩ := shape.append_answers first leaf alike.firstSlots notFull
  have other : shape.append second leaf = .ok next := (append_congr alike leaf).symm.trans appended
  exact ⟨next, next, appended, other, size, rfl, shape.readAlike_refl slots⟩

variable (shape)

/-- The state over a list that fits has one slot for each level.  Above no leaf a slot holds the padding of
its level.  Otherwise the last leaf stands below one of two siblings on that level of the tree over the
padded leaves, and the slot holds the left one.  Of the slots an append reads only those at whose level the
digit of the size is one: states that agree there go on to states with the same root that are again read
alike, and no further leaves tell them apart. -/
theorem slots_hold_left_nodes_read_by_digits :
    (∀ leaves : List α, leaves.length ≤ 2 ^ shape.depth →
      ∃ state, shape.rebuild leaves = .ok state ∧ state.size = leaves.length ∧
        state.frontier.length = shape.depth ∧
        ∀ level < shape.depth, ∃ slot, state.frontier[level]? = some slot ∧
          (leaves = [] → slot = shape.padding level) ∧
          (1 ≤ leaves.length → slot = shape.node (shape.padded leaves) level
            (leftOf ((leaves.length - 1) >>> level)))) ∧
    ∀ first second : State α, shape.ReadAlike first second → first.size < 2 ^ shape.depth →
      ∀ leaf, (∃ one other, shape.append first leaf = .ok one ∧ shape.append second leaf = .ok other ∧
          one.size = first.size + 1 ∧ one.root = other.root ∧ shape.ReadAlike one other) ∧
        ∀ rest, shape.appendAll first (leaf :: rest) = shape.appendAll second (leaf :: rest) := by
  constructor
  · intro leaves fits
    have rebuilt := shape.rebuild_eq leaves
    rw [capacity_eq, if_pos fits] at rebuilt
    refine ⟨shape.stateOver leaves, rebuilt, rfl, shape.stateOver_length_frontier leaves, ?_⟩
    intro level inside
    refine ⟨_, shape.stateOver_frontier_getElem? leaves level inside, ?_, ?_⟩
    · rintro rfl
      exact shape.slot_nil level
    · intro _
      rw [node_padded, slot_eq_node_leftOf]
  · intro first second alike room leaf
    exact ⟨append_readAlike alike room leaf, appendAll_congr alike leaf⟩

/-- Above three leaves the lower slot holds the third leaf and the upper one the node over the first two.  At
size two only the upper slot is read, so what stands in the lower one, and the old root, do not matter. -/
theorem slots_hold_left_nodes_read_by_digits_fourLeaves :
    (∃ state, fourLeaves.rebuild [[1], [2], [3]] = .ok state ∧ state.frontier[0]? = some [3] ∧
        state.frontier[1]? = some [1, 2]) ∧
      ∃ one other,
        fourLeaves.append { size := 2, frontier := [[1], [1, 2]], root := [1, 2, 0, 0] } [3] = .ok one ∧
        fourLeaves.append { size := 2, frontier := [[9], [1, 2]], root := [] } [3] = .ok other ∧
        one.root = other.root := by
  obtain ⟨hold, read⟩ := fourLeaves.slots_hold_left_nodes_read_by_digits
  constructor
  · obtain ⟨state, rebuilt, _, _, slots⟩ := hold [[1], [2], [3]] (by decide)
    obtain ⟨lower, lowerHere, _, lowerNode⟩ := slots 0 (by decide)
    obtain ⟨upper, upperHere, _, upperNode⟩ := slots 1 (by decide)
    refine ⟨state, rebuilt, ?_, ?_⟩
    · rw [lowerHere, lowerNode (by decide)]
      decide
    · rw [upperHere, upperNode (by decide)]
      decide
  · obtain ⟨⟨one, other, firstAppended, secondAppended, _, root, _⟩, _⟩ :=
      read { size := 2, frontier := [[1], [1, 2]], root := [1, 2, 0, 0] }
        { size := 2, frontier := [[9], [1, 2]], root := [] }
        { size := rfl
          firstSlots := rfl
          secondSlots := rfl
          slots := by
            rintro (_ | _ | level) isOne
            · exact absurd isOne (by decide)
            · rfl
            · rfl }
        (by decide) [3]
    exact ⟨one, other, firstAppended, secondAppended, root⟩

end CommitmentLog.Tree.Shape
