import CommitmentLog.Appender.Recovery
import CommitmentLog.Checkpoints

/-!
# Appending

One append writes an identity and its checkpoint in one transaction: both become visible together, or
neither does.  The tree of the appender advances only when the transaction has been committed, so after a
failure the tables and the tree are as they were.  When the tree does not fit the number of identities,
another appender has written, and the tree is loaded anew before anything is written.

A steady clock measures how long an append takes.  Time passes when the checkpoint is about to be recorded,
and an append that has taken longer than the timeout is not committed.
-/

set_option autoImplicit false

namespace CommitmentLog

/-- A transaction of the store: what has been committed, and what the transaction itself sees. -/
structure Transaction where
  stored : Tables
  view : Tables

namespace Transaction

def start (tables : Tables) : Transaction :=
  { stored := tables, view := tables }

def commit (transaction : Transaction) : Transaction :=
  { transaction with stored := transaction.view }

def rollback (transaction : Transaction) : Transaction :=
  { transaction with view := transaction.stored }

end Transaction

/-- What a transaction is about to commit. -/
structure Appended where
  checkpoint : Checkpoint
  tree : Tree.State Bytes
  tables : Tables
  deriving DecidableEq, Repr

namespace Setup

/-- What each of the readings of an append sees before it writes.  The last two are made only if the tree does
not fit the count. -/
structure Sightings where
  leaves : Tables
  latest : Tables
  count : Tables
  leavesAgain : Tables
  latestAgain : Tables

/-- Readings between which nobody writes. -/
def Sightings.still (tables : Tables) : Sightings :=
  { leaves := tables, latest := tables, count := tables, leavesAgain := tables, latestAgain := tables }

/-- The tree to append to: the one that is kept if it fits the number of identities, otherwise the one
that the store gives. -/
def currentTreeOver (setup : Setup) (conditions : Conditions) (seen : Sightings)
    (kept : Option (Tree.State Bytes)) : Except Failure (Nat × Tree.State Bytes) := do
  let tree ← (kept.map .ok).getD (setup.loadTreeOver conditions seen.leaves seen.latest)
  let next ← Ledger.count conditions seen.count
  if (next : Int) = tree.size then .ok (next, tree)
  else
    let tree ← setup.loadTreeOver conditions seen.leavesAgain seen.latestAgain
    .ok (next, tree)

/-- The steps of one append that starts at a time of the steady clock, up to the commit, with what its transaction
then sees and the clock. -/
def writeOver (setup : Setup) (conditions : Conditions) (clock : Binary) (seen : Sightings)
    (kept : Option (Tree.State Bytes)) (commitment : Bytes) (view : Tables) :
    Except Failure Appended × Tables × Binary :=
  match setup.currentTreeOver conditions seen kept with
  | .error failure => (.error failure, view, clock)
  | .ok (leaf, tree) =>
      match Ledger.append setup.schema conditions view commitment (some leaf) with
      | .error failure => (.error failure, view, clock)
      | .ok (_, view) =>
          match setup.extend conditions tree commitment with
          | .error failure => (.error failure, view, clock)
          | .ok tree =>
              let later := clock.plus conditions.elapsed
              match Checkpoints.insert setup.schema conditions 1 view
                  { root := tree.root, lastIdentity := commitment, identityCount := leaf + 1 } with
              | .error failure => (.error failure, view, later)
              | .ok (checkpoint, view) =>
                  if setup.timeout.isLess (later.minus clock) then
                    (.error (.refused (.exceeded leaf setup.timeout)), view, later)
                  else (.ok { checkpoint, tree, tables := view }, view, later)

/-- One append in a transaction.  It is committed if every step succeeds, and rolled back otherwise. -/
def transactionOver (setup : Setup) (conditions : Conditions) (clock : Binary) (seen : Sightings)
    (kept : Option (Tree.State Bytes)) (commitment : Bytes) (started : Transaction) :
    Except Failure Appended × Transaction × Binary :=
  let (result, view, clock) := setup.writeOver conditions clock seen kept commitment started.view
  let written := { started with view }
  match result with
  | .error failure => (.error failure, written.rollback, clock)
  | .ok appended =>
      if conditions.strikes .commit then (.error (.database .operational), written.rollback, clock)
      else (.ok appended, written.commit, clock)

end Setup

namespace Appender

structure Outcome where
  result : Except Failure Checkpoint
  appender : Appender
  tables : Tables
  clock : Binary

/-- An append whose readings see contents of their own.  It writes to `tables`. -/
def appendOver (setup : Setup) (conditions : Conditions) (clock : Binary) (seen : Setup.Sightings)
    (tables : Tables) (appender : Appender) (commitment : Bytes) : Outcome :=
  let (outcome, appender) := appender.exclusively setup fun held =>
    match held.running with
    | .error failure => ((.error failure, tables, clock), held)
    | .ok () =>
        match setup.transactionOver conditions clock seen held.tree commitment (.start tables) with
        | (.ok appended, transaction, clock) =>
            ((.ok appended.checkpoint, transaction.stored, clock), { held with tree := some appended.tree })
        | (.error failure, transaction, clock) =>
            ((.error (retriable failure), transaction.stored, clock), held.afterFailure failure)
  match outcome with
  | .error failure => { result := .error failure, appender, tables, clock }
  | .ok (result, tables, clock) => { result, appender, tables, clock }

def append (setup : Setup) (conditions : Conditions) (clock : Binary) (tables : Tables)
    (appender : Appender) (commitment : Bytes) : Outcome :=
  appender.appendOver setup conditions clock (.still tables) tables commitment

end Appender

end CommitmentLog
