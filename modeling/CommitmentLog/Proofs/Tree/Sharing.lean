import CommitmentLog.Proofs.Tree.Binding
import CommitmentLog.Proofs.Tree.Layers

/-!
# Lists that share a root

Two lists have the same root if they are the same once padding is written out.  The converse holds up to a
collision, and the collision is among the pairs that were joined on the way to the two roots.

To speak of these pairs, let every node carry the pairs that it was made of.  Since nothing but `parent` ever
looks into a node, the tree over such nodes goes the same way as the tree itself, and its root carries what
was joined for the root.
-/

set_option autoImplicit false

namespace CommitmentLog.Tree

variable {α : Type}

/-- A node with the pairs that were joined to make it. -/
structure Traced (α : Type) where
  node : α
  pairs : List (α × α)

def Traced.given (node : α) : Traced α :=
  { node, pairs := [] }

def Traced.joined (parent : α → α → α) (left right : Traced α) : Traced α :=
  { node := parent left.node right.node
    pairs := (left.node, right.node) :: (left.pairs ++ right.pairs) }

namespace Shape

variable (shape : Shape α)

def traced : Shape (Traced α) :=
  { depth := shape.depth, emptyLeaf := .given shape.emptyLeaf, parent := Traced.joined shape.parent }

/-- The pairs that are joined for the root when a list of leaves is appended one by one. -/
def joinedFor (leaves : List α) : List (α × α) :=
  match shape.traced.rebuild (leaves.map .given) with
  | .ok state => state.root.pairs
  | .error _ => []

theorem leafAt_traced (leaves : List α) (position : Nat) :
    shape.traced.leafAt (leaves.map .given) position = .given (shape.leafAt leaves position) := by
  cases here : leaves[position]? <;> simp [leafAt, traced, here]

theorem node_traced (leaves : List α) (level position : Nat) :
    (shape.traced.node (leaves.map .given) level position).node = shape.node leaves level position := by
  induction level generalizing position with
  | zero => rw [node, node, leafAt_traced, Traced.given]
  | succ level inductionHypothesis =>
      have left := inductionHypothesis (2 * position)
      have right := inductionHypothesis (2 * position + 1)
      simp only [node]
      rw [← left, ← right]
      rfl

theorem joinedFor_eq (leaves : List α) (fits : leaves.length ≤ 2 ^ shape.depth) :
    shape.joinedFor leaves = (shape.traced.rootOver (leaves.map .given)).pairs := by
  have rebuilt := shape.traced.rebuild_eq (leaves.map .given)
  have room : (leaves.map Traced.given).length ≤ shape.traced.capacity := by
    rw [List.length_map]
    exact fits
  rw [joinedFor, rebuilt, if_pos room]
  rfl

theorem pairs_node_succ (leaves : List α) (level position : Nat) :
    (shape.traced.node (leaves.map .given) (level + 1) position).pairs =
      shape.children leaves level position ::
        ((shape.traced.node (leaves.map .given) level (2 * position)).pairs ++
          (shape.traced.node (leaves.map .given) level (2 * position + 1)).pairs) := by
  have left := shape.node_traced leaves level (2 * position)
  have right := shape.node_traced leaves level (2 * position + 1)
  rw [children, ← left, ← right]
  rfl

variable [DecidableEq α]

/-- What the search below a node finds was joined to make that node. -/
theorem joined_of_collision? (first second : List α) (level position : Nat)
    (pairs : (α × α) × (α × α)) (found : shape.collision? first second level position = some pairs) :
    pairs.1 ∈ (shape.traced.node (first.map .given) level position).pairs ∧
      pairs.2 ∈ (shape.traced.node (second.map .given) level position).pairs := by
  induction level generalizing position with
  | zero => simp [collision?] at found
  | succ level inductionHypothesis =>
      rw [pairs_node_succ, pairs_node_succ]
      rw [collision?] at found
      split at found
      case isTrue =>
        rcases Option.or_eq_some_iff.mp found with left | ⟨_, right⟩
        · obtain ⟨one, other⟩ := inductionHypothesis (2 * position) left
          simp [one, other]
        · obtain ⟨one, other⟩ := inductionHypothesis (2 * position + 1) right
          simp [one, other]
      case isFalse =>
        cases found
        simp

omit [DecidableEq α] in
theorem rootOver_eq_of_padded_eq (first second : List α)
    (same : shape.padded first = shape.padded second) :
    shape.rootOver first = shape.rootOver second := by
  rw [rootOver, rootOver, ← node_padded, same, node_padded]

omit [DecidableEq α] in
theorem padded_eq_of_leafAt_eq (first second : List α) (firstFits : first.length ≤ 2 ^ shape.depth)
    (secondFits : second.length ≤ 2 ^ shape.depth)
    (same : ∀ leaf < shape.capacity, shape.leafAt first leaf = shape.leafAt second leaf) :
    shape.padded first = shape.padded second := by
  have firstLength := shape.length_padded first firstFits
  have secondLength := shape.length_padded second secondFits
  apply List.ext_getElem?
  intro leaf
  by_cases inside : leaf < 2 ^ shape.depth
  · rw [shape.padded_getElem? first firstFits leaf inside,
      shape.padded_getElem? second secondFits leaf inside, same leaf inside]
  · rw [List.getElem?_eq_none (by omega), List.getElem?_eq_none (by omega)]

/-- Lists that differ beyond padding and have the same root show a collision on the way to it. -/
theorem collision_of_rootOver_eq (first second : List α) (firstFits : first.length ≤ 2 ^ shape.depth)
    (secondFits : second.length ≤ 2 ^ shape.depth)
    (shared : shape.rootOver first = shape.rootOver second)
    (differ : shape.padded first ≠ shape.padded second) :
    ∃ pairs, shape.rootCollision? first second = some pairs ∧ pairs.1 ∈ shape.joinedFor first ∧
      pairs.2 ∈ shape.joinedFor second ∧ shape.Collide pairs.1 pairs.2 := by
  cases search : shape.rootCollision? first second with
  | none =>
      have same := shape.leafAt_eq_of_rootOver_eq first second shared search
      exact absurd (shape.padded_eq_of_leafAt_eq first second firstFits secondFits same) differ
  | some pairs =>
      obtain ⟨one, other⟩ := shape.joined_of_collision? first second shape.depth 0 pairs search
      rw [joinedFor_eq shape first firstFits, joinedFor_eq shape second secondFits]
      exact ⟨pairs, rfl, one, other, shape.collide_of_collision? _ _ _ _ pairs shared search⟩

/-- Whether two lists share a root is decided by the padded lists, up to a collision among the pairs that
are joined for the two roots.  So one more leaf that is equal to padding leaves the root as it is. -/
theorem root_shared_by_padded (first second : List α) (firstFits : first.length ≤ 2 ^ shape.depth)
    (secondFits : second.length ≤ 2 ^ shape.depth) :
    ∃ one other, shape.rebuild first = .ok one ∧ shape.rebuild second = .ok other ∧
      (shape.padded first = shape.padded second → one.root = other.root) ∧
      (first.length < 2 ^ shape.depth → ∃ next, shape.append one shape.emptyLeaf = .ok next ∧
        next.size = one.size + 1 ∧ next.root = one.root) ∧
      (one.root = other.root → shape.padded first ≠ shape.padded second →
        ∃ pairs, shape.rootCollision? first second = some pairs ∧ pairs.1 ∈ shape.joinedFor first ∧
          pairs.2 ∈ shape.joinedFor second ∧ shape.Collide pairs.1 pairs.2) := by
  have firstRebuilt := shape.rebuild_eq first
  have secondRebuilt := shape.rebuild_eq second
  rw [capacity_eq, if_pos firstFits] at firstRebuilt
  rw [capacity_eq, if_pos secondFits] at secondRebuilt
  refine ⟨_, _, firstRebuilt, secondRebuilt, ?_, ?_, ?_⟩
  · exact shape.rootOver_eq_of_padded_eq first second
  · intro room
    refine ⟨_, shape.append_stateOver first shape.emptyLeaf room, ?_, ?_⟩
    · simp
    · exact shape.rootOver_append_emptyLeaf first
  · exact shape.collision_of_rootOver_eq first second firstFits secondFits

theorem root_shared_by_padded_shifted :
    (∃ one other, fourLeaves.rebuild [[1], [2]] = .ok one ∧
        fourLeaves.rebuild [[1], [2], [0]] = .ok other ∧ one.root = other.root) ∧
      ∃ pairs, fourLeaves.rootCollision? [[1], [2]] [[1, 2], []] = some pairs ∧
        pairs.1 ∈ fourLeaves.joinedFor [[1], [2]] ∧ pairs.2 ∈ fourLeaves.joinedFor [[1, 2], []] ∧
        fourLeaves.Collide pairs.1 pairs.2 := by
  constructor
  · obtain ⟨one, other, firstRebuilt, secondRebuilt, same, _⟩ :=
      fourLeaves.root_shared_by_padded [[1], [2]] [[1], [2], [0]] (by decide) (by decide)
    exact ⟨one, other, firstRebuilt, secondRebuilt, same (by decide)⟩
  · obtain ⟨one, other, firstRebuilt, secondRebuilt, _, _, collide⟩ :=
      fourLeaves.root_shared_by_padded [[1], [2]] [[1, 2], []] (by decide) (by decide)
    apply collide
    · obtain ⟨_, rfl⟩ := fourLeaves.rebuild_ok firstRebuilt
      obtain ⟨_, rfl⟩ := fourLeaves.rebuild_ok secondRebuilt
      decide
    · decide

end Shape

end CommitmentLog.Tree
