import CommitmentLog.Proofs.Tree.Frontier
import CommitmentLog.Tree.Proof

/-!
# What the layers hold

The layer of a level holds the nodes of the padded tree that stand above a leaf of the list, and above the
leaves of an empty list one node of padding.  Pairing the nodes of one level gives those of the next: where
their number is odd, the last one is paired with padding, and padding is what the tree has beside it.  So
the top layer is the root that appending leaf by leaf arrives at.
-/

set_option autoImplicit false

namespace CommitmentLog.Tree.Shape

variable {α : Type} (shape : Shape α)

/-! ## How wide a layer is -/

def width (size : Nat) : Nat → Nat
  | 0 => size
  | level + 1 => max 1 ((width size level + 1) / 2)

theorem lt_width_iff (size level position : Nat) :
    position < width size level ↔
      position * 2 ^ level < size ∨ (size = 0 ∧ 1 ≤ level ∧ position = 0) := by
  induction level generalizing position with
  | zero => simp [width]
  | succ level inductionHypothesis =>
      have start : position * 2 ^ (level + 1) = 2 * position * 2 ^ level := by ring
      have doubled := inductionHypothesis (2 * position)
      have halved : position < (width size level + 1) / 2 ↔ 2 * position < width size level := by
        omega
      rw [width, lt_max_iff, halved, doubled, start]
      rcases Nat.eq_zero_or_pos position with first | later
      · subst first
        rw [Nat.mul_zero, Nat.zero_mul]
        omega
      · omega

theorem length_le_width (size level : Nat) : size ≤ width size level * 2 ^ level := by
  have notInside : ¬width size level < width size level := Nat.lt_irrefl _
  rw [lt_width_iff] at notInside
  omega

theorem width_of_fits (size level : Nat) (above : 1 ≤ level) (fits : size ≤ 2 ^ level) :
    width size level = 1 := by
  have first := lt_width_iff size level 0
  have second := lt_width_iff size level 1
  rw [Nat.zero_mul] at first
  rw [Nat.one_mul] at second
  omega

/-! ## One level -/

def layerOver (leaves : List α) (level : Nat) : List α :=
  (List.range' 0 (width leaves.length level)).map (shape.node leaves level)

theorem length_layerOver (leaves : List α) (level : Nat) :
    (shape.layerOver leaves level).length = width leaves.length level := by
  simp [layerOver]

theorem layerOver_zero (leaves : List α) : shape.layerOver leaves 0 = leaves := by
  apply List.ext_getElem
  · simp [layerOver, width]
  · intro position _ inside
    simp [layerOver, node, leafAt, inside]

/-- Pairing neighbours that begin at an even position gives the nodes above them, if the list ends before
the first node that is not among them. -/
theorem pairUp_nodes (leaves : List α) (level start count : Nat)
    (behind : leaves.length ≤ (2 * start + count) * 2 ^ level) :
    pairUp shape.parent (shape.padding level)
        ((List.range' (2 * start) count).map (shape.node leaves level)) =
      (List.range' start ((count + 1) / 2)).map (shape.node leaves (level + 1)) := by
  induction count using Nat.twoStepInduction generalizing start with
  | zero => rfl
  | one =>
      have padding := shape.node_of_length_le leaves level (2 * start + 1) behind
      simp [List.range'_succ, pairUp, node, padding]
  | more count inductionHypothesis _ =>
      have rest : 2 * (start + 1) + count = 2 * start + (count + 2) := by omega
      have above := inductionHypothesis (start + 1) (by rwa [rest])
      have halves : (count + 2 + 1) / 2 = (count + 1) / 2 + 1 := by omega
      rw [halves, List.range'_succ, List.range'_succ, List.range'_succ, List.map_cons, List.map_cons,
        List.map_cons, pairUp, ← above]
      rfl

theorem pairUp_layerOver (leaves : List α) (level : Nat) :
    (let next := pairUp shape.parent (shape.padding level) (shape.layerOver leaves level)
      if next.isEmpty then [shape.padding (level + 1)] else next) =
      shape.layerOver leaves (level + 1) := by
  have covered := length_le_width leaves.length level
  have paired := shape.pairUp_nodes leaves level 0 (width leaves.length level)
    (by rwa [Nat.mul_zero, Nat.zero_add])
  rw [Nat.mul_zero] at paired
  simp only [layerOver, paired, width]
  rcases Nat.eq_zero_or_pos (width leaves.length level) with none | some
  · -- There is no leaf at all, so the node of the next level is made up of padding.
    rw [none, Nat.zero_mul] at covered
    have padding := shape.node_of_length_le leaves (level + 1) 0 (by rwa [Nat.zero_mul])
    simp [none, padding]
  · have present : 1 ≤ (width leaves.length level + 1) / 2 := by omega
    rw [Nat.max_eq_right present]
    simp
    omega

/-! ## All levels -/

theorem paddingsAbove_eq (level count : Nat) :
    paddingsAbove shape.parent count (shape.padding level) =
      (List.range' level (count + 1)).map shape.padding := by
  induction count generalizing level with
  | zero => rfl
  | succ count inductionHypothesis =>
      have above := inductionHypothesis (level + 1)
      rw [padding] at above
      rw [paddingsAbove, above]
      rfl

theorem layersFrom_layerOver (leaves : List α) (level count : Nat) :
    layersFrom shape.parent ((List.range' level (count + 1)).map shape.padding)
        (shape.layerOver leaves level) =
      (List.range' level (count + 1)).map (shape.layerOver leaves) := by
  induction count generalizing level with
  | zero => rfl
  | succ count inductionHypothesis =>
      have above := inductionHypothesis (level + 1)
      have next := shape.pairUp_layerOver leaves level
      simp only [List.range'_succ, List.map_cons] at above ⊢
      simp only [layersFrom]
      simp only at next
      rw [next, above]

theorem layers_eq (leaves : List α) :
    shape.layers leaves = (List.range' 0 (shape.depth + 1)).map (shape.layerOver leaves) := by
  have paddings : shape.paddings = (List.range' 0 (shape.depth + 1)).map shape.padding :=
    shape.paddingsAbove_eq 0 shape.depth
  have all := shape.layersFrom_layerOver leaves 0 shape.depth
  rw [layerOver_zero] at all
  rw [layers, paddings, all]

theorem layers_getElem? (leaves : List α) (level : Nat) (inside : level ≤ shape.depth) :
    (shape.layers leaves)[level]? = some (shape.layerOver leaves level) := by
  have below : level < shape.depth + 1 := Nat.lt_succ_of_le inside
  simp [layers_eq, below]

theorem length_layers (leaves : List α) : (shape.layers leaves).length = shape.depth + 1 := by
  simp [layers_eq]

theorem getLast?_layers_eq (leaves : List α) :
    (shape.layers leaves).getLast? = some (shape.layerOver leaves shape.depth) := by
  rw [List.getLast?_eq_getElem?, length_layers, Nat.add_sub_cancel,
    shape.layers_getElem? leaves shape.depth (Nat.le_refl _)]

theorem getLast?_layers (deep : 1 ≤ shape.depth) (leaves : List α)
    (fits : leaves.length ≤ 2 ^ shape.depth) :
    (shape.layers leaves).getLast? = some [shape.rootOver leaves] := by
  rw [getLast?_layers_eq, layerOver, width_of_fits _ _ deep fits]
  rfl

theorem length_padded (leaves : List α) (fits : leaves.length ≤ 2 ^ shape.depth) :
    (shape.padded leaves).length = 2 ^ shape.depth := by
  rw [padded, List.length_append, List.length_replicate, capacity_eq]
  omega

theorem padded_getElem? (leaves : List α) (fits : leaves.length ≤ 2 ^ shape.depth) (position : Nat)
    (inside : position < 2 ^ shape.depth) :
    (shape.padded leaves)[position]? = some (shape.leafAt leaves position) := by
  have padded := shape.node_padded leaves 0 position
  have length := shape.length_padded leaves fits
  rw [node, node, leafAt, List.getD_eq_getElem?_getD, List.getElem?_eq_getElem (by omega),
    Option.getD_some] at padded
  rw [← padded, List.getElem?_eq_getElem]

/-- Layers hold nodes of the complete tree over the padded leaves: on each level those above a leaf of the
list, and above no leaf at all one node of padding.  If the list fits, appending leaf by leaf arrives at the
root of that tree, which is the whole top layer; if not, the tree is found full. -/
theorem rebuild_and_layers_agree (deep : 1 ≤ shape.depth) (leaves : List α) :
    (shape.layers leaves).length = shape.depth + 1 ∧
      (∀ level ≤ shape.depth, ∃ layer, (shape.layers leaves)[level]? = some layer ∧
        (∀ (position : Nat) (node : α), layer[position]? = some node →
          node = shape.node (shape.padded leaves) level position) ∧
        (∀ position, position < layer.length ↔
          position * 2 ^ level < leaves.length ∨ (leaves = [] ∧ 1 ≤ level ∧ position = 0)) ∧
        (leaves = [] → 1 ≤ level → layer = [shape.padding level])) ∧
      if leaves.length ≤ 2 ^ shape.depth then
        (shape.padded leaves).length = 2 ^ shape.depth ∧
          ∃ state, shape.rebuild leaves = .ok state ∧ state.size = leaves.length ∧
            state.root = shape.rootOver (shape.padded leaves) ∧
            (shape.layers leaves).getLast? = some [state.root]
      else shape.rebuild leaves = .error (.full shape.depth) := by
  refine ⟨shape.length_layers leaves, ?_, ?_⟩
  · intro level inside
    refine ⟨shape.layerOver leaves level, shape.layers_getElem? leaves level inside, ?_, ?_, ?_⟩
    · intro position node here
      rw [layerOver, List.getElem?_map, Option.map_eq_some_iff] at here
      obtain ⟨index, counted, rfl⟩ := here
      obtain ⟨_, same⟩ := List.getElem?_eq_some_iff.mp counted
      rw [List.getElem_range', Nat.zero_add, Nat.one_mul] at same
      rw [node_padded, same]
    · intro position
      rw [length_layerOver, lt_width_iff, List.length_eq_zero_iff]
    · intro none above
      subst none
      rw [layerOver, List.length_nil, width_of_fits 0 level above (Nat.zero_le _)]
      exact congrArg (fun node => [node]) (shape.node_nil level 0)
  · have rebuilt := shape.rebuild_eq leaves
    rw [capacity_eq] at rebuilt
    split
    case isTrue fits =>
      rw [if_pos fits] at rebuilt
      refine ⟨shape.length_padded leaves fits, shape.stateOver leaves, rebuilt, rfl, ?_, ?_⟩
      · rw [stateOver_root, rootOver, rootOver, node_padded]
      · rw [stateOver_root]
        exact shape.getLast?_layers deep leaves fits
    case isFalse overfull =>
      rw [rebuilt, if_neg overfull]

/-- A tree of four leaves, in which a node is the list of what stands below it. -/
def fourLeaves : Shape (List Nat) :=
  { depth := 2, emptyLeaf := [0], parent := fun left right => left ++ right }

/-- Three leaves leave one place to padding, on the level of the leaves and on the next. -/
theorem rebuild_and_layers_agree_fourLeaves :
    1 ≤ fourLeaves.depth ∧ fourLeaves.layers [[1], [2], [3]] =
        [[[1], [2], [3]], [[1, 2], [3, 0]], [[1, 2, 3, 0]]] ∧
      ∃ state, fourLeaves.rebuild [[1], [2], [3]] = .ok state ∧ state.root = [1, 2, 3, 0] := by
  obtain ⟨_, _, agree⟩ := fourLeaves.rebuild_and_layers_agree (by decide) [[1], [2], [3]]
  rw [if_pos (by decide)] at agree
  obtain ⟨_, state, rebuilt, _, root, _⟩ := agree
  exact ⟨by decide, by decide, state, rebuilt, root.trans (by decide)⟩

end CommitmentLog.Tree.Shape
