import CommitmentLog.Tree.Basic

/-!
# Layers and inclusion proofs

The layers of a list of leaves hold, for every level, the nodes that cover at least one leaf.  An
inclusion proof for a leaf takes its sibling on each level, from the layer or from the padding, and
notes on which side the sibling stands.  Checking a proof folds the siblings over the leaf and compares
the result with the root it names.  Neither layers nor proofs look at the capacity.
-/

set_option autoImplicit false

namespace CommitmentLog.Tree

variable {α : Type}

inductive Side where
  | left
  | right
  deriving DecidableEq, Repr

/-- A leaf, its position, its siblings from the bottom to the top, and the root they lead to. -/
structure Proof (α : Type) where
  leaf : α
  index : Int
  siblings : List (Side × α)
  root : α
  deriving DecidableEq, Repr

def join (parent : α → α → α) (node : α) : Side × α → α
  | (.left, sibling) => parent sibling node
  | (.right, sibling) => parent node sibling

def recompute (parent : α → α → α) (leaf : α) (siblings : List (Side × α)) : α :=
  siblings.foldl (join parent) leaf

def Proof.verify [DecidableEq α] (parent : α → α → α) (proof : Proof α) : Bool :=
  recompute parent proof.leaf proof.siblings = proof.root

/-- The nodes above a level, where a last node without a neighbour is paired with padding. -/
def pairUp (parent : α → α → α) (padding : α) : List α → List α
  | [] => []
  | [last] => [parent last padding]
  | left :: right :: rest => parent left right :: pairUp parent padding rest

namespace Shape

/-- The layers from a level to the top, given the padding of these levels.  A level above no leaf at
all holds its padding once. -/
def layersFrom (parent : α → α → α) : List α → List α → List (List α)
  | padding :: above :: paddings, level =>
      let next := pairUp parent padding level
      level :: layersFrom parent (above :: paddings) (if next.isEmpty then [above] else next)
  | _, level => [level]

def layers (shape : Shape α) (leaves : List α) : List (List α) :=
  layersFrom shape.parent shape.paddings leaves

def siblingsFrom : List α → List (List α) → Nat → List (Side × α)
  | padding :: paddings, layer :: layers, position =>
      (if position % 2 = 1 then (.left, layer.getD (position - 1) padding)
        else (.right, layer.getD (position + 1) padding)) ::
          siblingsFrom paddings layers (position / 2)
  | _, _, _ => []

def topOf (shape : Shape α) (layers : List (List α)) : α :=
  match layers.getLast? with
  | some (node :: _) => node
  | _ => shape.padding shape.depth

def prove (shape : Shape α) (leaves : List α) (index : Int) : Except Refusal (Proof α) :=
  if index < 0 then .error (.outside index)
  else
    match leaves[index.toNat]? with
    | none => .error (.outside index)
    | some leaf =>
        let layers := shape.layers leaves
        .ok { leaf, index,
              siblings := siblingsFrom (shape.paddings.take shape.depth) layers index.toNat,
              root := shape.topOf layers }

end Shape

end CommitmentLog.Tree
