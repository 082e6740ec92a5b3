import CommitmentLog.Proofs.Tree.Binding
import CommitmentLog.Proofs.Tree.Path

/-!
# Forged proofs

A proof need not come from the tree.  Still, one whose sides are those of a position and whose root is the
root of the tree can only be valid if it tells the truth about that position: its leaf and all its siblings
are those of the tree, or the function that joins two nodes collides.

Two proofs with the same sides that lead to the same node are compared from the top downwards.  As long as
both join the same pair, the nodes below are the same too; where the pairs differ, they collide.
`pathCollision?` finds the highest such place.
-/

set_option autoImplicit false

namespace CommitmentLog.Tree

variable {α : Type}

def beside (node : α) : Side × α → α × α
  | (.left, sibling) => (sibling, node)
  | (.right, sibling) => (node, sibling)

theorem join_eq (parent : α → α → α) (node : α) (sibling : Side × α) :
    join parent node sibling = parent (beside node sibling).1 (beside node sibling).2 := by
  obtain ⟨side, sibling⟩ := sibling
  cases side <;> rfl

theorem beside_inj {first second : α} {firstSibling secondSibling : Side × α}
    (sameSide : firstSibling.1 = secondSibling.1)
    (same : beside first firstSibling = beside second secondSibling) :
    first = second ∧ firstSibling = secondSibling := by
  obtain ⟨side, firstNode⟩ := firstSibling
  obtain ⟨otherSide, secondNode⟩ := secondSibling
  cases sameSide
  cases side <;> simp_all [beside]

namespace Shape

variable (shape : Shape α)

instance [DecidableEq α] (first second : α × α) : Decidable (shape.Collide first second) :=
  inferInstanceAs (Decidable (_ ∧ _))

/-- The pairs on which two paths collide, looked for from the top. -/
def pathCollision? [DecidableEq α] :
    α → List (Side × α) → α → List (Side × α) → Option ((α × α) × (α × α))
  | first, firstSibling :: firstRest, second, secondSibling :: secondRest =>
      let firstPair := beside first firstSibling
      let secondPair := beside second secondSibling
      (pathCollision? (join shape.parent first firstSibling) firstRest
          (join shape.parent second secondSibling) secondRest).or
        (if shape.Collide firstPair secondPair then some (firstPair, secondPair) else none)
  | _, _, _, _ => none

def proofCollision? [DecidableEq α] (first second : Proof α) : Option ((α × α) × (α × α)) :=
  shape.pathCollision? first.leaf first.siblings second.leaf second.siblings

variable [DecidableEq α]

theorem collide_of_pathCollision? (first second : α) (firstPath secondPath : List (Side × α))
    (pairs : (α × α) × (α × α))
    (found : shape.pathCollision? first firstPath second secondPath = some pairs) :
    shape.Collide pairs.1 pairs.2 := by
  induction firstPath generalizing first second secondPath with
  | nil => cases found
  | cons firstSibling firstRest inductionHypothesis =>
      cases secondPath with
      | nil => cases found
      | cons secondSibling secondRest =>
          rcases Option.or_eq_some_iff.mp found with above | ⟨_, here⟩
          · exact inductionHypothesis _ _ secondRest above
          · split at here
            case isTrue collide =>
              cases here
              exact collide
            case isFalse => cases here

/-- Two paths with the same sides that lead to the same node are the same, unless they collide. -/
theorem eq_of_recompute_eq (first second : α) (firstPath secondPath : List (Side × α))
    (sameSides : firstPath.map (·.1) = secondPath.map (·.1))
    (shared : recompute shape.parent first firstPath = recompute shape.parent second secondPath)
    (nothing : shape.pathCollision? first firstPath second secondPath = none) :
    first = second ∧ firstPath = secondPath := by
  induction firstPath generalizing first second secondPath with
  | nil =>
      cases secondPath with
      | nil => exact ⟨shared, rfl⟩
      | cons => cases sameSides
  | cons firstSibling firstRest inductionHypothesis =>
      cases secondPath with
      | nil => cases sameSides
      | cons secondSibling secondRest =>
          obtain ⟨sameSide, sameRest⟩ := List.cons.inj sameSides
          obtain ⟨nothingAbove, nothingHere⟩ := Option.or_eq_none_iff.mp nothing
          -- Above this level the paths are the same, so the pairs of this level have the same parent.
          obtain ⟨joined, rest⟩ := inductionHypothesis _ _ secondRest sameRest shared nothingAbove
          rw [join_eq, join_eq] at joined
          have same : beside first firstSibling = beside second secondSibling := by
            by_contra differ
            rw [if_pos ⟨differ, joined⟩] at nothingHere
            cases nothingHere
          obtain ⟨sameNode, sameSibling⟩ := beside_inj sameSide same
          exact ⟨sameNode, by rw [sameSibling, rest]⟩

theorem eq_or_collide_of_verify (first second : Proof α)
    (sameSides : first.siblings.map (·.1) = second.siblings.map (·.1))
    (sameRoot : first.root = second.root) (firstValid : first.verify shape.parent = true)
    (secondValid : second.verify shape.parent = true) :
    (first.leaf = second.leaf ∧ first.siblings = second.siblings) ∨
      ∃ pairs, shape.proofCollision? first second = some pairs ∧
        shape.Collide pairs.1 pairs.2 := by
  have firstLed := of_decide_eq_true firstValid
  have secondLed := of_decide_eq_true secondValid
  have shared := firstLed.trans (sameRoot.trans secondLed.symm)
  cases search : shape.proofCollision? first second with
  | none => exact Or.inl (shape.eq_of_recompute_eq _ _ _ _ sameSides shared search)
  | some pairs => exact Or.inr ⟨pairs, rfl, shape.collide_of_pathCollision? _ _ _ _ pairs search⟩

/-! ## Proofs about a position of the tree -/

def proofOver (leaves : List α) (position : Nat) : Proof α :=
  { leaf := shape.leafAt leaves position, index := position
    siblings := shape.pathOver leaves position, root := shape.rootOver leaves }

theorem verify_proofOver (leaves : List α) (position : Nat) (inside : position < 2 ^ shape.depth) :
    (shape.proofOver leaves position).verify shape.parent = true :=
  decide_eq_true (shape.recompute_pathOver leaves position inside)

omit [DecidableEq α] in
/-- Siblings have the sides of a position if they stand on the left where the digit of the position is one. -/
theorem sides_pathOver (leaves : List α) (position : Nat) (siblings : List (Side × α))
    (sized : siblings.length = shape.depth)
    (sided : ∀ level (below : level < siblings.length),
      siblings[level].1 = .left ↔ position.testBit level = true) :
    siblings.map (·.1) = (shape.pathOver leaves position).map (·.1) := by
  apply List.ext_getElem
  · simp [sized]
  · intro level below above
    rw [List.length_map] at below above
    have same : siblings[level].1 = .left ↔ (shape.pathOver leaves position)[level].1 = .left :=
      (sided level below).trans (shape.side_pathOver leaves position level above).symm
    rw [List.getElem_map, List.getElem_map]
    cases standing : siblings[level].1 with
    | left => exact (same.mp standing).symm
    | right =>
        cases expected : (shape.pathOver leaves position)[level].1 with
        | left => exact standing.symm.trans (same.mpr expected)
        | right => rfl

/-- A valid proof that has the sides of a position and the root of the tree tells the leaf at this position
and all the siblings on its path, or it collides with the tree.  Another proof with the same sides and the
same root is valid only if the two collide. -/
theorem verify_binds_position (leaves : List α) (fits : leaves.length ≤ 2 ^ shape.depth) :
    ∃ state, shape.rebuild leaves = .ok state ∧
      ∀ (position : Nat) (proof : Proof α), position < 2 ^ shape.depth →
        proof.siblings.length = shape.depth →
        (∀ level (below : level < proof.siblings.length),
          proof.siblings[level].1 = .left ↔ position.testBit level = true) →
        proof.root = state.root → proof.verify shape.parent = true →
          ((shape.padded leaves)[position]? = some proof.leaf ∧
              proof.siblings = shape.pathOver (shape.padded leaves) position ∨
            ∃ pairs, shape.proofCollision? proof (shape.proofOver leaves position) = some pairs ∧
              shape.Collide pairs.1 pairs.2) ∧
          ∀ altered : Proof α, altered.siblings.map (·.1) = proof.siblings.map (·.1) →
            altered.root = proof.root →
            altered.leaf ≠ proof.leaf ∨ altered.siblings ≠ proof.siblings →
              altered.verify shape.parent = false ∨
                ∃ pairs, shape.proofCollision? altered proof = some pairs ∧
                  shape.Collide pairs.1 pairs.2 := by
  have rebuilt := shape.rebuild_eq leaves
  rw [capacity_eq, if_pos fits] at rebuilt
  refine ⟨shape.stateOver leaves, rebuilt, ?_⟩
  intro position proof inside sized sided rooted valid
  constructor
  · have sameSides := shape.sides_pathOver leaves position proof.siblings sized sided
    have truthful := shape.verify_proofOver leaves position inside
    rcases shape.eq_or_collide_of_verify proof (shape.proofOver leaves position) sameSides rooted valid
      truthful with ⟨leaf, siblings⟩ | collision
    · left
      rw [leaf, siblings, pathOver_padded]
      exact ⟨shape.padded_getElem? leaves fits position inside, rfl⟩
    · exact Or.inr collision
  · intro altered sameSides sameRoot differs
    cases alteredValid : altered.verify shape.parent with
    | false => exact Or.inl rfl
    | true =>
        rcases shape.eq_or_collide_of_verify altered proof sameSides sameRoot alteredValid valid with
          ⟨leaf, siblings⟩ | collision
        · exact absurd differs (by simp [leaf, siblings])
        · exact Or.inr collision

def shifted : Proof (List Nat) :=
  { leaf := [], index := 1, siblings := [(.left, [1, 2]), (.right, [3, 0])], root := [1, 2, 3, 0] }

/-- Joining texts collides, and so the shifted proof is valid although its leaf is not in the tree. -/
theorem verify_binds_position_shifted :
    shifted.verify fourLeaves.parent = true ∧
      (fourLeaves.padded [[1], [2], [3]])[1]? ≠ some shifted.leaf ∧
      ∃ pairs, fourLeaves.proofCollision? shifted (fourLeaves.proofOver [[1], [2], [3]] 1) = some pairs ∧
        fourLeaves.Collide pairs.1 pairs.2 := by
  obtain ⟨state, rebuilt, binds⟩ := fourLeaves.verify_binds_position [[1], [2], [3]] (by decide)
  have known : fourLeaves.rebuild [[1], [2], [3]] = .ok state → state.root = [1, 2, 3, 0] := by
    rw [fourLeaves.rebuild_eq, if_pos (by decide)]
    intro same
    rw [← Except.ok.inj same]
    decide
  have valid : shifted.verify fourLeaves.parent = true := by decide
  have other : (fourLeaves.padded [[1], [2], [3]])[1]? ≠ some shifted.leaf := by decide
  have bound := binds 1 shifted (by decide) rfl (by decide) (known rebuilt).symm valid
  exact ⟨valid, other, bound.1.resolve_left fun truthful => other truthful.1⟩

end Shape

end CommitmentLog.Tree
