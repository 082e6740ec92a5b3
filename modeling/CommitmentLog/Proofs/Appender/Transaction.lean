import CommitmentLog.Appender.Append
import CommitmentLog.Proofs.Appender.Lock

/-!
# The transaction of an append

The steps of an append as two stages of which either may fail: the identity is prepared, and its checkpoint is
recorded.  When nobody else writes between the readings, the transaction comes to what the stages come to.  Its
commit leaves the tables that they have written, and its rollback the tables that were there.
-/

set_option autoImplicit false

namespace CommitmentLog

/-- What a transaction has come to before the checkpoint is recorded. -/
structure Prepared where
  leaf : Nat
  tree : Tree.State Bytes
  tables : Tables
  deriving DecidableEq, Repr

namespace Setup

def currentTree (setup : Setup) (conditions : Conditions) (tables : Tables)
    (kept : Option (Tree.State Bytes)) : Except Failure (Nat × Tree.State Bytes) := do
  let tree ← (kept.map .ok).getD (setup.loadTree conditions tables)
  let next ← Ledger.count conditions tables
  if (next : Int) = tree.size then .ok (next, tree)
  else
    let tree ← setup.loadTree conditions tables
    .ok (next, tree)

def prepare (setup : Setup) (conditions : Conditions) (tables : Tables)
    (kept : Option (Tree.State Bytes)) (commitment : Bytes) : Except Failure Prepared := do
  let (leaf, tree) ← setup.currentTree conditions tables kept
  let (_, written) ← Ledger.append setup.schema conditions tables commitment (some leaf)
  let tree ← setup.extend conditions tree commitment
  .ok { leaf, tree, tables := written }

/-- Writes the checkpoint and goes up to the commit, which is due when the append has taken this many
seconds. -/
def record (setup : Setup) (conditions : Conditions) (commitment : Bytes) (prepared : Prepared)
    (seconds : Binary) : Except Failure Appended := do
  let (checkpoint, written) ← Checkpoints.insert setup.schema conditions 1 prepared.tables
    { root := prepared.tree.root, lastIdentity := commitment, identityCount := prepared.leaf + 1 }
  if setup.timeout.isLess seconds then .error (.refused (.exceeded prepared.leaf setup.timeout))
  else if conditions.strikes .commit then .error (.database .operational)
  else .ok { checkpoint, tree := prepared.tree, tables := written }

def transaction (setup : Setup) (conditions : Conditions) (clock : Binary) (tables : Tables)
    (kept : Option (Tree.State Bytes)) (commitment : Bytes) : Except Failure Appended × Binary :=
  match setup.prepare conditions tables kept commitment with
  | .error failure => (.error failure, clock)
  | .ok prepared =>
      let later := clock.plus conditions.elapsed
      (setup.record conditions commitment prepared (later.minus clock), later)

/-- A transaction that comes to a result: what has been committed by its end, and what it then sees. -/
def settled (tables : Tables) : Except Failure Appended × Binary →
    Except Failure Appended × Transaction × Binary
  | (.error failure, clock) => (.error failure, .start tables, clock)
  | (.ok appended, clock) => (.ok appended, .start appended.tables, clock)

theorem transactionOver_still (setup : Setup) (conditions : Conditions) (clock : Binary)
    (tables : Tables) (kept : Option (Tree.State Bytes)) (commitment : Bytes) :
    setup.transactionOver conditions clock (.still tables) kept commitment (.start tables) =
      settled tables (setup.transaction conditions clock tables kept commitment) := by
  have reads : setup.currentTreeOver conditions (.still tables) kept =
      setup.currentTree conditions tables kept := rfl
  rw [transactionOver, writeOver, transaction, prepare, reads]
  cases setup.currentTree conditions tables kept with
  | error failure => rfl
  | ok current =>
      obtain ⟨leaf, tree⟩ := current
      simp only [Transaction.start, bind, Except.bind]
      cases Ledger.append setup.schema conditions tables commitment (some leaf) with
      | error failure => rfl
      | ok stored =>
          obtain ⟨next, view⟩ := stored
          simp only
          cases setup.extend conditions tree commitment with
          | error failure => rfl
          | ok tree =>
              simp only [record, bind, Except.bind]
              cases Checkpoints.insert setup.schema conditions 1 view
                  { root := tree.root, lastIdentity := commitment, identityCount := leaf + 1 } with
              | error failure => rfl
              | ok recorded =>
                  cases setup.timeout.isLess ((clock.plus conditions.elapsed).minus clock) with
                  | true => rfl
                  | false => cases conditions.strikes .commit <;> rfl

end Setup

namespace Appender

theorem appendOver_eq (setup : Setup) (conditions : Conditions) (clock : Binary)
    (seen : Setup.Sightings) (tables : Tables) (appender : Appender) (commitment : Bytes) :
    appender.appendOver setup conditions clock seen tables commitment =
      match appender.enter setup with
      | .error failure => { result := .error failure, appender, tables, clock }
      | .ok () =>
          match appender.running with
          | .error failure => { result := .error failure, appender, tables, clock }
          | .ok () =>
              match setup.transactionOver conditions clock seen appender.tree commitment (.start tables) with
              | (.ok appended, transaction, clock) =>
                  { result := .ok appended.checkpoint
                    appender := { appender with tree := some appended.tree }
                    tables := transaction.stored
                    clock }
              | (.error failure, transaction, clock) =>
                  { result := .error (retriable failure)
                    appender := appender.afterFailure failure
                    tables := transaction.stored
                    clock } := by
  rw [appendOver]
  cases entered : appender.enter setup with
  | error failure => rw [exclusively_of_refused entered]
  | ok =>
      have free := unlocked_of_enter entered
      have sameHalt : appender.hold.2.running = appender.running := rfl
      have sameTree : appender.hold.2.tree = appender.tree := rfl
      rw [exclusively_of_entered entered]
      simp only [sameHalt, sameTree]
      cases appender.running with
      | error failure => simp only [release_hold free]
      | ok =>
          rcases setup.transactionOver conditions clock seen appender.tree commitment (.start tables) with
            ⟨failure | appended, transaction, later⟩
          · simp only [release_afterFailure free]
          · have released := release_of_held free (some appended.tree) appender.halted
            exact congrArg (Outcome.mk (.ok appended.checkpoint) · transaction.stored later) released

theorem append_eq (setup : Setup) (conditions : Conditions) (clock : Binary) (tables : Tables)
    (appender : Appender) (commitment : Bytes) :
    appender.append setup conditions clock tables commitment =
      match appender.enter setup with
      | .error failure => { result := .error failure, appender, tables, clock }
      | .ok () =>
          match appender.running with
          | .error failure => { result := .error failure, appender, tables, clock }
          | .ok () =>
              match setup.transaction conditions clock tables appender.tree commitment with
              | (.ok appended, clock) =>
                  { result := .ok appended.checkpoint
                    appender := { appender with tree := some appended.tree }
                    tables := appended.tables
                    clock }
              | (.error failure, clock) =>
                  { result := .error (retriable failure)
                    appender := appender.afterFailure failure
                    tables
                    clock } := by
  rw [append, appendOver_eq, Setup.transactionOver_still]
  cases appender.enter setup with
  | error failure => rfl
  | ok =>
      cases appender.running with
      | error failure => rfl
      | ok =>
          rcases setup.transaction conditions clock tables appender.tree commitment with
            ⟨failure | appended, later⟩
          · rfl
          · rfl

end Appender

end CommitmentLog
