import CommitmentLog.Store.Write

/-!
# The ledger of identities

The ledger is an append-only list of commitments.  Its length is the number of identities in the store,
and the next commitment takes the leaf of that number, so the leaves of a ledger that only ever grew by
appends are 0, 1, 2 and so on without a gap.  The store does not enforce that; reading all leaves checks
it.
-/

set_option autoImplicit false

namespace CommitmentLog.Ledger

open Store

def bound (value : Int) : Except Failure Int :=
  if Statement.fits value then .ok value else .error .integerTooLarge

/-! ## Reading -/

def count (conditions : Conditions) (tables : Tables) : Except Failure Nat :=
  if conditions.strikes .count then .error (.database .operational)
  else .ok tables.identities.length

/-- The commitments of identities that stand at consecutive leaves from a given one. -/
def consecutive : Int → List Identity → Except Refusal (List Bytes)
  | _, [] => .ok []
  | expected, identity :: rest =>
      if identity.leafIndex = expected then
        match consecutive (expected + 1) rest with
        | .error reason => .error reason
        | .ok commitments => .ok (identity.commitment :: commitments)
      else .error (.leafGap expected identity.leafIndex)

/-- All commitments in the order of their leaves, which must be consecutive from zero. -/
def leaves (conditions : Conditions) (tables : Tables) : Except Failure (List Bytes) :=
  if conditions.strikes .leaves then .error (.database .operational)
  else (consecutive 0 tables.identities).mapError .refused

def get (tables : Tables) (leafIndex : Int) : Except Failure Bytes := do
  let leafIndex ← bound leafIndex
  match tables.identities.find? fun identity => identity.leafIndex = leafIndex with
  | some identity => .ok identity.commitment
  | none => .error (.refused (.vacantLeaf leafIndex))

def contains (tables : Tables) (commitment : Bytes) (leafIndex : Int) : Except Failure Bool := do
  let leafIndex ← bound leafIndex
  .ok (tables.holds commitment leafIndex)

def find (tables : Tables) (commitment : Bytes) : Except Failure Int :=
  match tables.identities.find? fun identity => identity.commitment = commitment with
  | some identity => .ok identity.leafIndex
  | none => .error (.refused (.unknownCommitment commitment))

/-! ## Paging -/

/-- A run of identities, and the cursor for the next page; no cursor behind the last one. -/
structure Page where
  items : List Identity
  next : Option Int
  deriving DecidableEq, Repr

def behind (identities : List Identity) : Option Int → List Identity
  | none => identities
  | some cursor => identities.filter fun identity => cursor < identity.leafIndex

/-- At most as many identities as a limit allows; a negative limit allows all. -/
def limited (identities : List Identity) (limit : Int) : List Identity :=
  if limit < 0 then identities else identities.take limit.toNat

/-- The identities behind a cursor, up to a limit.  Only an empty page has no cursor for the next. -/
def page (tables : Tables) (cursor : Option Int) (limit : Int) : Except Failure Page := do
  let cursor ← cursor.mapM bound
  let limit ← bound limit
  let items := limited (behind tables.identities cursor) limit
  .ok { items, next := items.getLast?.map (·.leafIndex) }

/-! ## Appending -/

/-- The tables with one more commitment, and its leaf.  A leaf that is asked for must be the next free
one. -/
def append (schema : Schema) (conditions : Conditions) (tables : Tables) (commitment : Bytes)
    (leafIndex : Option Int) : Except Failure (Int × Tables) := do
  let next : Int := (← count conditions tables : Nat)
  let wanted := leafIndex.getD next
  if wanted < next then .error (.refused (.leafTaken wanted next))
  else if next < wanted then .error (.refused (.leafBeyondNext wanted next))
  else
    match conditions.write schema 0 tables (.insertIdentity { leafIndex := next, commitment }) with
    | .ok after => .ok (next, after)
    | .error .integrity => .error (.refused (.leafRejected next))
    | .error .operational => .error (.refused .storageFailed)

/-- The tables with an identity at any leaf, stored without the rules of appending. -/
def put (schema : Schema) (conditions : Conditions) (tables : Tables) (identity : Identity) :
    Except Failure Tables :=
  match conditions.writeError? 0 with
  | some error => .error (.database error)
  | none => do
      let _ ← bound identity.leafIndex
      (conditions.write schema 0 tables (.insertIdentity identity)).mapError .database

end CommitmentLog.Ledger
