import CommitmentLog.Proofs.Tree.Layers

/-!
# The path of a position

From a leaf up to the root each node has a sibling.  A proof that is made from the layers lists these
siblings: a layer leaves out only nodes of padding, and padding is what takes their place.  Joining the
siblings of a position to its leaf leads to the node of the top layer above it.  In a list that fits this is
the root, so every proof that is made is valid; in a longer list the top layer has more nodes, and only the
first of them is what the proof names as its root.
-/

set_option autoImplicit false

namespace CommitmentLog.Tree.Shape

variable {α : Type} (shape : Shape α)

/-- The node beside the one at a position, and the side on which it stands. -/
def siblingOver (leaves : List α) (level position : Nat) : Side × α :=
  if position % 2 = 1 then (.left, shape.node leaves level (position - 1))
  else (.right, shape.node leaves level (position + 1))

def pathOver (leaves : List α) (position : Nat) : List (Side × α) :=
  (List.range' 0 shape.depth).map fun level =>
    shape.siblingOver leaves level (position / 2 ^ level)

@[simp] theorem length_pathOver (leaves : List α) (position : Nat) :
    (shape.pathOver leaves position).length = shape.depth := by
  simp [pathOver]

theorem siblingOver_padded (leaves : List α) (level position : Nat) :
    shape.siblingOver (shape.padded leaves) level position =
      shape.siblingOver leaves level position := by
  simp only [siblingOver, node_padded]

theorem pathOver_padded (leaves : List α) (position : Nat) :
    shape.pathOver (shape.padded leaves) position = shape.pathOver leaves position := by
  simp only [pathOver, siblingOver_padded]

/-! ## Upwards along the path -/

theorem join_siblingOver (leaves : List α) (level position : Nat) :
    join shape.parent (shape.node leaves level position) (shape.siblingOver leaves level position) =
      shape.node leaves (level + 1) (position / 2) := by
  by_cases odd : position % 2 = 1
  · have left : 2 * (position / 2) = position - 1 := by omega
    have right : position - 1 + 1 = position := by omega
    rw [siblingOver, if_pos odd, join, node, left, right]
  · have left : 2 * (position / 2) = position := by omega
    rw [siblingOver, if_neg odd, join, node, left]

theorem recompute_siblings (leaves : List α) (position level count : Nat) :
    recompute shape.parent (shape.node leaves level (position / 2 ^ level))
        ((List.range' level count).map fun above =>
          shape.siblingOver leaves above (position / 2 ^ above)) =
      shape.node leaves (level + count) (position / 2 ^ (level + count)) := by
  induction count generalizing level with
  | zero => rfl
  | succ count inductionHypothesis =>
      have above := inductionHypothesis (level + 1)
      rw [Nat.add_right_comm level 1 count, div_pow_succ, ← join_siblingOver] at above
      rw [List.range'_succ, List.map_cons, recompute, List.foldl_cons]
      exact above

/-- The path of a position leads from its leaf to the node above it at the top, even if the position lies
behind the last leaf that the tree has. -/
theorem recompute_pathOver_eq_node (leaves : List α) (position : Nat) :
    recompute shape.parent (shape.leafAt leaves position) (shape.pathOver leaves position) =
      shape.node leaves shape.depth (position / 2 ^ shape.depth) := by
  have climbed := shape.recompute_siblings leaves position 0 shape.depth
  rw [pow_zero, Nat.div_one, Nat.zero_add] at climbed
  exact climbed

theorem recompute_pathOver (leaves : List α) (position : Nat) (inside : position < 2 ^ shape.depth) :
    recompute shape.parent (shape.leafAt leaves position) (shape.pathOver leaves position) =
      shape.rootOver leaves := by
  rw [recompute_pathOver_eq_node, Nat.div_eq_of_lt inside, rootOver]

theorem side_pathOver (leaves : List α) (position level : Nat)
    (below : level < (shape.pathOver leaves position).length) :
    (shape.pathOver leaves position)[level].1 = .left ↔ position.testBit level = true := by
  rw [Nat.testBit_eq_decide_div_mod_eq, decide_eq_true_iff]
  simp only [pathOver, List.getElem_map, List.getElem_range', Nat.zero_add, Nat.one_mul, siblingOver]
  by_cases odd : position / 2 ^ level % 2 = 1
  · simp [odd]
  · simp [odd]

/-! ## The proofs that are made -/

theorem layerOver_getD (leaves : List α) (level position : Nat) :
    (shape.layerOver leaves level).getD position (shape.padding level) =
      shape.node leaves level position := by
  by_cases inside : position < width leaves.length level
  · simp [layerOver, inside]
  · have behind : leaves.length ≤ position * 2 ^ level := by
      rw [lt_width_iff] at inside
      omega
    rw [shape.node_of_length_le leaves level position behind]
    simp [layerOver, inside]

theorem siblingsFrom_layerOver (leaves : List α) (position level count : Nat) :
    siblingsFrom ((List.range' level count).map shape.padding)
        ((List.range' level (count + 1)).map (shape.layerOver leaves)) (position / 2 ^ level) =
      (List.range' level count).map fun above =>
        shape.siblingOver leaves above (position / 2 ^ above) := by
  induction count generalizing level with
  | zero => rfl
  | succ count inductionHypothesis =>
      have above := inductionHypothesis (level + 1)
      rw [div_pow_succ] at above
      simp only [List.range'_succ, List.map_cons] at above ⊢
      simp only [siblingsFrom, layerOver_getD, above, siblingOver]

theorem siblingsFrom_layers (leaves : List α) (position : Nat) :
    siblingsFrom (shape.paddings.take shape.depth) (shape.layers leaves) position =
      shape.pathOver leaves position := by
  have siblings := shape.siblingsFrom_layerOver leaves position 0 shape.depth
  rw [pow_zero, Nat.div_one, ← layers_eq, ← take_paddings] at siblings
  exact siblings

/-- The first node of the top layer is the node at the top, whether the list fits or not. -/
theorem topOf_layers (leaves : List α) : shape.topOf (shape.layers leaves) = shape.rootOver leaves := by
  have first := shape.layerOver_getD leaves shape.depth 0
  rw [topOf, getLast?_layers_eq, rootOver, ← first]
  cases shape.layerOver leaves shape.depth <;> rfl

theorem layerOver_getElem?_above (leaves : List α) (level position : Nat)
    (inside : position < leaves.length) :
    (shape.layerOver leaves level)[position / 2 ^ level]? =
      some (shape.node leaves level (position / 2 ^ level)) := by
  have begins : position / 2 ^ level * 2 ^ level ≤ position := Nat.div_mul_le_self position _
  have among : position / 2 ^ level < width leaves.length level :=
    (lt_width_iff _ _ _).mpr (Or.inl (Nat.lt_of_le_of_lt begins inside))
  simp [layerOver, among]

theorem prove_eq (leaves : List α) (position : Nat) (leaf : α) (here : leaves[position]? = some leaf) :
    shape.prove leaves position =
      .ok { leaf, index := position, siblings := shape.pathOver leaves position
            root := shape.rootOver leaves } := by
  have notNegative : ¬(position : Int) < 0 := by omega
  simp only [prove, notNegative, if_false, Int.toNat_natCast, here, topOf_layers, siblingsFrom_layers]

theorem prove_ok {leaves : List α} {index : Int} {proof : Proof α}
    (made : shape.prove leaves index = .ok proof) :
    ∃ position : Nat, index = position ∧ leaves[position]? = some proof.leaf ∧
      proof.siblings = shape.pathOver leaves position ∧ proof.root = shape.rootOver leaves := by
  by_cases negative : index < 0
  · rw [prove, if_pos negative] at made
    cases made
  · have natural : index = (index.toNat : Int) := by omega
    cases here : leaves[index.toNat]? with
    | none => simp [prove, negative, here] at made
    | some leaf =>
        rw [natural, shape.prove_eq leaves index.toNat leaf here] at made
        cases made
        exact ⟨index.toNat, natural, here, rfl, rfl⟩

theorem leafAt_of_getElem? {leaves : List α} {position : Nat} {leaf : α}
    (here : leaves[position]? = some leaf) : shape.leafAt leaves position = leaf := by
  rw [leafAt, List.getD_eq_getElem?_getD, here, Option.getD_some]

theorem verify_of_prove [DecidableEq α] {leaves : List α} {index : Int} {proof : Proof α}
    (fits : leaves.length ≤ 2 ^ shape.depth) (made : shape.prove leaves index = .ok proof) :
    proof.verify shape.parent = true := by
  obtain ⟨position, _, here, siblings, root⟩ := shape.prove_ok made
  obtain ⟨inside, _⟩ := List.getElem?_eq_some_iff.mp here
  have led := shape.recompute_pathOver leaves position (Nat.lt_of_lt_of_le inside fits)
  rw [shape.leafAt_of_getElem? here, ← siblings, ← root] at led
  exact decide_eq_true led

/-- A proof for a leaf of any list, however long, has a sibling for every level, on the side that the digits
of the index say, and leads from the leaf to the node of the top layer above it.  It names the first node of
that layer as its root, so it is valid exactly if the two are the same.  In a list that fits they are, and
the root is the one that appending leaf by leaf arrives at. -/
theorem prove_leads_to_top [DecidableEq α] (leaves : List α) (index : Nat)
    (inside : index < leaves.length) :
    ∃ proof top above first,
      shape.prove leaves index = .ok proof ∧ (shape.layers leaves).getLast? = some top ∧
        top[index >>> shape.depth]? = some above ∧ top[0]? = some first ∧
        proof.leaf = leaves[index] ∧ proof.index = index ∧ proof.root = first ∧
        proof.siblings.length = shape.depth ∧
        (∀ level (below : level < proof.siblings.length),
          proof.siblings[level].1 = .left ↔ index.testBit level = true) ∧
        recompute shape.parent proof.leaf proof.siblings = above ∧
        (proof.verify shape.parent = true ↔ above = first) ∧
        (leaves.length ≤ 2 ^ shape.depth → proof.verify shape.parent = true ∧
          ∃ state, shape.rebuild leaves = .ok state ∧ proof.root = state.root) := by
  have here : leaves[index]? = some leaves[index] := List.getElem?_eq_getElem inside
  have made := shape.prove_eq leaves index leaves[index] here
  have top := shape.getLast?_layers_eq leaves
  have above := shape.layerOver_getElem?_above leaves shape.depth index inside
  have first := shape.layerOver_getElem?_above leaves shape.depth 0 (Nat.zero_lt_of_lt inside)
  have led := shape.recompute_pathOver_eq_node leaves index
  rw [← Nat.shiftRight_eq_div_pow] at above led
  rw [Nat.zero_div] at first
  rw [shape.leafAt_of_getElem? here] at led
  refine ⟨_, _, _, _, made, top, above, first, rfl, rfl, rfl, shape.length_pathOver leaves index,
    shape.side_pathOver leaves index, led, ?_, ?_⟩
  · rw [Proof.verify, decide_eq_true_iff, led, rootOver]
  · intro fits
    have rebuilt := shape.rebuild_eq leaves
    rw [capacity_eq, if_pos fits] at rebuilt
    exact ⟨shape.verify_of_prove fits made, _, rebuilt, (shape.stateOver_root leaves).symm⟩

/-- The fifth leaf of a tree of four has siblings, but its path leads to the second node at the top, and the
proof is not valid. -/
theorem prove_leads_to_top_fifthLeaf :
    4 < [[1], [2], [3], [4], [5]].length ∧
      ∃ proof, fourLeaves.prove [[1], [2], [3], [4], [5]] 4 = .ok proof ∧
        proof.siblings = [(.right, [0]), (.right, [0, 0])] ∧ proof.root = [1, 2, 3, 4] ∧
        recompute fourLeaves.parent proof.leaf proof.siblings = [5, 0, 0, 0] ∧
        ¬proof.verify fourLeaves.parent = true := by
  obtain ⟨proof, top, above, first, made, layers, second, start, _, _, root, _, _, led, valid, _⟩ :=
    fourLeaves.prove_leads_to_top [[1], [2], [3], [4], [5]] 4 (by decide)
  have twoNodes : (fourLeaves.layers [[1], [2], [3], [4], [5]]).getLast? =
      some [[1, 2, 3, 4], [5, 0, 0, 0]] := by decide
  cases twoNodes.symm.trans layers
  cases second
  cases start
  have siblings : (fourLeaves.prove [[1], [2], [3], [4], [5]] 4).map (·.siblings) =
      .ok [(.right, [0]), (.right, [0, 0])] := by decide
  rw [show fourLeaves.prove [[1], [2], [3], [4], [5]] 4 = .ok proof from made] at siblings
  exact ⟨by decide, proof, made, Except.ok.inj siblings, root, led, by rw [valid]; decide⟩

end CommitmentLog.Tree.Shape
