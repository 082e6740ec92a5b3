/-!
# The append-only tree

A tree of fixed depth whose unset leaves hold one agreed value.  Only the frontier is kept: for each
level the left node that was written last.  Appending reads the binary digits of the size from the
lowest to the highest.  At a zero digit the node becomes the frontier entry of its level and is paired
with the padding of that level; at a one digit it is paired with the left node that waits there.
Appending returns a new state and leaves the old one as it was, so a caller whose transaction fails
simply keeps the state from before.

The node type and the way two nodes are joined are parameters.
-/

set_option autoImplicit false

namespace CommitmentLog.Tree

/-- What all states of one tree share. -/
structure Shape (α : Type) where
  depth : Nat
  /-- The value of every leaf that has not been set. -/
  emptyLeaf : α
  parent : α → α → α

inductive Refusal where
  | full (depth : Nat)
  /-- The frontier has no entry for a level at which one is written or read. -/
  | missingSlot (writing : Bool)
  | outside (index : Int)
  /-- There is no level above the leaves. -/
  | tooShallow
  deriving DecidableEq, Repr

/-- The tree after some leaves.  The size is an integer because a state may be put together from
outside and need not come from appends. -/
structure State (α : Type) where
  size : Int
  /-- For each level the left node that was written last. -/
  frontier : List α
  root : α
  deriving DecidableEq, Repr

variable {α : Type}

namespace Shape

def ofDepth (depth : Int) (emptyLeaf : α) (parent : α → α → α) : Except Refusal (Shape α) :=
  if depth < 1 then .error .tooShallow else .ok { depth := depth.toNat, emptyLeaf, parent }

def capacity (shape : Shape α) : Nat :=
  Nat.pow 2 shape.depth

/-- The node of a given height under which no leaf is set. -/
def padding (shape : Shape α) : Nat → α
  | 0 => shape.emptyLeaf
  | height + 1 =>
      let below := shape.padding height
      shape.parent below below

/-- The padding of this many further heights, upwards from a given node. -/
def paddingsAbove (parent : α → α → α) : Nat → α → List α
  | 0, node => [node]
  | count + 1, node => node :: paddingsAbove parent count (parent node node)

def paddings (shape : Shape α) : List α :=
  paddingsAbove shape.parent shape.depth shape.emptyLeaf

def empty (shape : Shape α) : State α :=
  { size := 0, frontier := shape.paddings.take shape.depth, root := shape.padding shape.depth }

/-- Carries a node upwards through the levels whose padding is listed.  The integer holds the digits
of the size from this level on.  The answer is the new frontier and the node at the top. -/
def climb (parent : α → α → α) :
    List α → List α → Int → α → Except Refusal (List α × α)
  | [], slots, _, node => .ok (slots, node)
  | _ :: _, [], digits, _ => .error (.missingSlot (digits % 2 = 0))
  | padding :: paddings, slot :: slots, digits, node =>
      if digits % 2 = 0 then
        match climb parent paddings slots (digits / 2) (parent node padding) with
        | .error reason => .error reason
        | .ok (above, top) => .ok (node :: above, top)
      else
        match climb parent paddings slots (digits / 2) (parent slot node) with
        | .error reason => .error reason
        | .ok (above, top) => .ok (slot :: above, top)

def append (shape : Shape α) (state : State α) (leaf : α) : Except Refusal (State α) :=
  if (shape.capacity : Int) ≤ state.size then .error (.full shape.depth)
  else
    match climb shape.parent (shape.paddings.take shape.depth) state.frontier state.size leaf with
    | .error reason => .error reason
    | .ok (frontier, root) => .ok { size := state.size + 1, frontier, root }

def appendAll (shape : Shape α) : State α → List α → Except Refusal (State α)
  | state, [] => .ok state
  | state, leaf :: rest =>
      match shape.append state leaf with
      | .error reason => .error reason
      | .ok next => shape.appendAll next rest

def rebuild (shape : Shape α) (leaves : List α) : Except Refusal (State α) :=
  shape.appendAll shape.empty leaves

end Shape

end CommitmentLog.Tree
