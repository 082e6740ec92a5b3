import CommitmentLog.Confirmation

/-!
# Sessions

A session works on the ledger and the checkpoints within one open transaction.  What it writes it sees at
once; a commit keeps it and a rollback drops it.  A refusal leaves the transaction as it is.  A write that
the database has rejected spoils the transaction, and so does any failure while a fault strikes; the
transaction is then rolled back.
-/

set_option autoImplicit false

namespace CommitmentLog

open Store

/-- A transaction over the content that the last commit left. -/
structure Session where
  committed : Tables := {}
  working : Tables := {}
  deriving DecidableEq, Repr

namespace Session

inductive Operation where
  | append (commitment : Bytes) (leafIndex : Option Int)
  | get (leafIndex : Int)
  | count
  | contains (commitment : Bytes) (leafIndex : Int)
  | find (commitment : Bytes)
  | leaves
  | page (cursor : Option Int) (limit : Int)
  | put (identity : Identity)
  | insert (draft : Checkpoints.Draft)
  | getRoot (root : Bytes)
  | latest
  /-- The latest checkpoint, or nothing. -/
  | findLatest
  | withStatus (status : Status)
  | all
  | highestMined
  | changeStatus (script : List Confirmation.Interruption) (root : Bytes) (status : Status)
      (minedAt : Option Timestamp)
  | commit
  | rollback
  deriving DecidableEq, Repr

inductive Answer where
  | nothing
  | number (value : Int)
  | truth (value : Bool)
  | commitment (value : Bytes)
  | commitments (values : List Bytes)
  | page (page : Ledger.Page)
  | checkpoint (checkpoint : Checkpoint)
  | checkpoints (checkpoints : List Checkpoint)
  /-- A checkpoint after a change of status, and whether the change wrote it. -/
  | changed (checkpoint : Checkpoint) (written : Bool)
  deriving DecidableEq, Repr

def reading {α : Type} (tables : Tables) (answer : α → Answer) (result : Except Failure α) :
    Except Failure Answer × Tables :=
  (result.map answer, tables)

def writing {α : Type} (tables : Tables) (answer : α → Answer) (result : Except Failure (α × Tables)) :
    Except Failure Answer × Tables :=
  match result with
  | .error failure => (.error failure, tables)
  | .ok (value, after) => (.ok (answer value), after)

def within (schema : Schema) (conditions : Conditions) (tables : Tables) :
    Operation → Except Failure Answer × Tables
  | .append commitment leafIndex =>
      writing tables .number (Ledger.append schema conditions tables commitment leafIndex)
  | .get leafIndex => reading tables .commitment (Ledger.get tables leafIndex)
  | .count => reading tables (fun count : Nat => .number count) (Ledger.count conditions tables)
  | .contains commitment leafIndex =>
      reading tables .truth (Ledger.contains tables commitment leafIndex)
  | .find commitment => reading tables .number (Ledger.find tables commitment)
  | .leaves => reading tables .commitments (Ledger.leaves conditions tables)
  | .page cursor limit => reading tables .page (Ledger.page tables cursor limit)
  | .put identity =>
      writing tables (fun _ : Unit => .nothing)
        ((Ledger.put schema conditions tables identity).map fun after => ((), after))
  | .insert draft =>
      writing tables .checkpoint (Checkpoints.insert schema conditions 0 tables draft)
  | .getRoot root => reading tables .checkpoint (Checkpoints.get tables root)
  | .latest => reading tables .checkpoint (Checkpoints.latest tables)
  | .findLatest => (.ok ((tables.latest?.map Answer.checkpoint).getD .nothing), tables)
  | .withStatus status => (.ok (.checkpoints (tables.withStatus status)), tables)
  | .all => (.ok (.checkpoints tables.checkpoints), tables)
  | .highestMined => (.ok (.number tables.highestMined), tables)
  | .changeStatus script root status minedAt =>
      let (result, after) :=
        Confirmation.applyStatus schema conditions script root status minedAt tables
      (result.map fun (checkpoint, written) => .changed checkpoint written, after)
  | .commit => (.ok .nothing, tables)
  | .rollback => (.ok .nothing, tables)

/-- Whether a failure says that the database has rejected a write. -/
def rejected (operation : Operation) (failure : Failure) : Bool :=
  match operation, failure with
  | .append _ _, .refused (.leafRejected _) => true
  | .insert _, .refused (.rootRejected _) => true
  | .put _, _ => true
  | _, _ => false

def spoils (conditions : Conditions) (operation : Operation) (failure : Failure) : Bool :=
  !conditions.faults.isEmpty || rejected operation failure

/-- The session after a failure that leaves the given tables, and whether the transaction was rolled back
on its account. -/
def afterFailure (session : Session) (spoilt : Bool) (tables : Tables) : Bool × Session :=
  if spoilt then (true, { session with working := session.committed })
  else (false, { session with working := tables })

/-- What comes of a request that names no operation: it fails, and changes nothing by itself. -/
def refuse (conditions : Conditions) (session : Session) (failure : Failure) :
    Except Failure Answer × Bool × Session :=
  (.error failure, session.afterFailure (!conditions.faults.isEmpty) session.working)

/-- One step: its answer, whether the transaction was rolled back on account of a failure, and the session
afterwards. -/
def step (schema : Schema) (conditions : Conditions) (session : Session) (operation : Operation) :
    Except Failure Answer × Bool × Session :=
  match operation with
  | .rollback => (.ok .nothing, false, { session with working := session.committed })
  | .commit =>
      if conditions.strikes .commit then
        (.error (.database .operational), true, { session with working := session.committed })
      else (.ok .nothing, false, { session with committed := session.working })
  | operation =>
      match within schema conditions session.working operation with
      | (.ok answer, after) => (.ok answer, false, { session with working := after })
      | (.error failure, after) =>
          (.error failure, session.afterFailure (spoils conditions operation failure) after)

end Session

end CommitmentLog
