import CommitmentLog.Proofs.Tree.Node

/-!
# Binding

A node binds the leaves below it, up to collisions of the function that joins two nodes.  For two lists
whose trees share a node, `collision?` walks down from that node as long as both trees join the same two
nodes.  Either it ends at a node that the two trees reach from different pairs, and these pairs collide,
or both lists have the same leaves below the node.
-/

set_option autoImplicit false

namespace CommitmentLog.Tree.Shape

variable {α : Type} (shape : Shape α)

def children (leaves : List α) (level position : Nat) : α × α :=
  (shape.node leaves level (2 * position), shape.node leaves level (2 * position + 1))

/-- Two different pairs of nodes have the same node above them. -/
def Collide (first second : α × α) : Prop :=
  first ≠ second ∧ shape.parent first.1 first.2 = shape.parent second.1 second.2

/-- The pairs of children at the first node, from the top and from the left, where two lists differ in
them. -/
def collision? [DecidableEq α] (first second : List α) : Nat → Nat → Option ((α × α) × (α × α))
  | 0, _ => none
  | level + 1, position =>
      if shape.children first level position = shape.children second level position then
        (collision? first second level (2 * position)).or
          (collision? first second level (2 * position + 1))
      else some (shape.children first level position, shape.children second level position)

def rootCollision? [DecidableEq α] (first second : List α) : Option ((α × α) × (α × α)) :=
  shape.collision? first second shape.depth 0

variable [DecidableEq α]

theorem collide_of_collision? (first second : List α) (level position : Nat)
    (pairs : (α × α) × (α × α))
    (shared : shape.node first level position = shape.node second level position)
    (found : shape.collision? first second level position = some pairs) :
    shape.Collide pairs.1 pairs.2 := by
  induction level generalizing position with
  | zero => simp [collision?] at found
  | succ level inductionHypothesis =>
      rw [collision?] at found
      split at found
      case isTrue same =>
        have left := congrArg Prod.fst same
        have right := congrArg Prod.snd same
        rcases Option.or_eq_some_iff.mp found with foundLeft | ⟨_, foundRight⟩
        · exact inductionHypothesis (2 * position) left foundLeft
        · exact inductionHypothesis (2 * position + 1) right foundRight
      case isFalse differ =>
        cases found
        exact ⟨differ, shared⟩

/-- Below a node that two lists share, they have the same leaves, unless the search finds something. -/
theorem leafAt_eq_of_no_collision (first second : List α) (level position : Nat)
    (shared : shape.node first level position = shape.node second level position)
    (nothing : shape.collision? first second level position = none) (leaf : Nat)
    (lower : position * 2 ^ level ≤ leaf) (upper : leaf < (position + 1) * 2 ^ level) :
    shape.leafAt first leaf = shape.leafAt second leaf := by
  induction level generalizing position with
  | zero =>
      have only : leaf = position := by
        simp only [pow_zero, Nat.mul_one] at lower upper
        omega
      rw [only]
      exact shared
  | succ level inductionHypothesis =>
      rw [collision?] at nothing
      split at nothing
      case isTrue same =>
        obtain ⟨nothingLeft, nothingRight⟩ := Option.or_eq_none_iff.mp nothing
        have left := congrArg Prod.fst same
        have right := congrArg Prod.snd same
        have start : position * 2 ^ (level + 1) = 2 * position * 2 ^ level := by ring
        have stop : (position + 1) * 2 ^ (level + 1) = (2 * position + 1 + 1) * 2 ^ level := by ring
        rw [start] at lower
        rw [stop] at upper
        by_cases inLeft : leaf < (2 * position + 1) * 2 ^ level
        · exact inductionHypothesis (2 * position) left nothingLeft lower inLeft
        · exact inductionHypothesis (2 * position + 1) right nothingRight (Nat.le_of_not_lt inLeft)
            upper
      case isFalse => cases nothing

theorem leafAt_eq_of_rootOver_eq (first second : List α)
    (shared : shape.rootOver first = shape.rootOver second)
    (nothing : shape.rootCollision? first second = none) (leaf : Nat) (inside : leaf < shape.capacity) :
    shape.leafAt first leaf = shape.leafAt second leaf := by
  have upper : leaf < (0 + 1) * 2 ^ shape.depth := by
    rw [Nat.zero_add, Nat.one_mul]
    exact inside
  exact shape.leafAt_eq_of_no_collision first second shape.depth 0 shared nothing leaf (by simp) upper

omit [DecidableEq α] in
theorem take_eq_of_leafAt_eq (shorter longer : List α) (within : shorter.length ≤ longer.length)
    (fits : longer.length ≤ shape.capacity)
    (same : ∀ leaf < shape.capacity, shape.leafAt shorter leaf = shape.leafAt longer leaf) :
    longer.take shorter.length = shorter := by
  apply List.ext_getElem
  · simpa using within
  · intro leaf _ inShorter
    have inLonger : leaf < longer.length := lt_of_lt_of_le inShorter within
    have equal := same leaf (lt_of_lt_of_le inLonger fits)
    simpa [leafAt, inShorter, inLonger] using equal.symm

end CommitmentLog.Tree.Shape
