import CommitmentLog.Hex
import CommitmentLog.Number.Shortest
import CommitmentLog.Store.Status
import CommitmentLog.Time.Timestamp

/-!
# Refusals

Everything the log refuses to do, by cause.  Each cause belongs to a category; the category gives the
short code and the number by which a remote caller learns of the refusal, and the cause gives the wording.
Violations of integrity are a category of their own, because they are never corrected automatically.
-/

set_option autoImplicit false

namespace CommitmentLog

inductive Category where
  | general
  | notFound
  | duplicateLeaf
  | duplicateRoot
  | invalidTransition
  /-- A passing failure of the storage; the whole operation may be tried again. -/
  | storage
  | appendTimeout
  /-- A checkpoint no longer matches the identities it claims to cover. -/
  | integrityViolation
  | treeFull
  deriving DecidableEq, Repr

namespace Category

def code : Category → String
  | general => "ledger_error"
  | notFound => "not_found"
  | duplicateLeaf => "duplicate_leaf"
  | duplicateRoot => "duplicate_root"
  | invalidTransition => "invalid_transition"
  | storage => "storage_error"
  | appendTimeout => "append_timeout"
  | integrityViolation => "integrity_violation"
  | treeFull => "tree_full"

def statusCode : Category → Nat
  | general => 500
  | notFound => 404
  | duplicateLeaf => 409
  | duplicateRoot => 409
  | invalidTransition => 409
  | storage => 503
  | appendTimeout => 503
  | integrityViolation => 500
  | treeFull => 507

/-- The categories that contain a category, the narrowest first. -/
def broader : Category → List Category
  | general => []
  | appendTimeout => [storage, general]
  | _ => [general]

/-- The wording of a refusal that brings no text of its own: the code. -/
def wording (category : Category) (message : Option String) : String :=
  match message with
  | none => category.code
  | some text => if text.isEmpty then category.code else text

end Category

inductive Refusal where
  | vacantLeaf (leaf : Int)
  | unknownCommitment (commitment : Bytes)
  | unknownRoot (root : Bytes)
  | noCheckpoint
  /-- The leaf asked for lies before the next free one. -/
  | leafTaken (leaf next : Int)
  | leafRejected (leaf : Int)
  /-- The leaf asked for lies behind the next free one. -/
  | leafBeyondNext (leaf next : Int)
  /-- The leaves in the store are not consecutive. -/
  | leafGap (expected found : Int)
  | rootRecorded (root : Bytes)
  | rootRejected (root : Bytes)
  /-- A checkpoint would be mined without a time, or have a time without being mined. -/
  | statusWithoutTime (status : Status) (minedAt : Option Timestamp)
  /-- The identity at the end of the prefix is not stored. -/
  | missingIdentity (commitment : Bytes) (leaf : Int)
  | prefixTaken (count : Int) (root : Bytes)
  | transition (current next : Status)
  | timeMissing
  /-- The confirmation lies before the one that is recorded. -/
  | earlierTime (root : Bytes) (recorded given : Timestamp)
  /-- The checkpoint changed between reading and writing, twice. -/
  | keepsChanging (root : Bytes)
  | storageFailed
  | diskAway
  | checkpointRefused
  /-- Another caller held the appender for longer than the timeout. -/
  | busy (timeout : Binary)
  /-- The append took longer than the timeout. -/
  | exceeded (leaf : Int) (timeout : Binary)
  | halted (reason : String)
  | noCheckpointFor (identities : Nat)
  /-- The latest checkpoint covers another number of identities than there are. -/
  | countMismatch (covered held : Int)
  | rootMismatch (recorded recomputed : Bytes)
  | proofMismatch (proof latest : Bytes)
  | missingPrefix (count : Int)
  | beyondLedger (count : Int)
  | wrongLastIdentity (root : Bytes)
  | prefixMismatch (count : Int) (recorded recomputed : Bytes)
  | checkpointCountMismatch (identities checkpoints : Nat)
  | treeFull (depth : Nat)
  deriving DecidableEq, Repr

namespace Refusal

def category : Refusal → Category
  | vacantLeaf _ | unknownCommitment _ | unknownRoot _ | noCheckpoint => .notFound
  | leafTaken _ _ | leafRejected _ => .duplicateLeaf
  | rootRecorded _ | rootRejected _ => .duplicateRoot
  | statusWithoutTime _ _ | transition _ _ | timeMissing | earlierTime _ _ _ => .invalidTransition
  | keepsChanging _ | storageFailed | diskAway => .storage
  | busy _ | exceeded _ _ => .appendTimeout
  | leafBeyondNext _ _ | leafGap _ _ | missingIdentity _ _ | prefixTaken _ _ | checkpointRefused
  | halted _ | noCheckpointFor _ | countMismatch _ _ | rootMismatch _ _ | proofMismatch _ _
  | missingPrefix _ | beyondLedger _ | wrongLastIdentity _ | prefixMismatch _ _ _
  | checkpointCountMismatch _ _ => .integrityViolation
  | treeFull _ => .treeFull

def describeTime : Option Timestamp → String
  | none => "None"
  | some timestamp => timestamp.description

def seconds (timeout : Binary) : String :=
  timeout.text ++ "s"

/-- The wording.  A failure of the database has none, since its text is the database's own. -/
def message? : Refusal → Option String
  | vacantLeaf leaf => some ("no identity at leaf " ++ toString leaf)
  | unknownCommitment commitment => some ("unknown commitment " ++ Hex.prefixed commitment)
  | unknownRoot root => some ("unknown root " ++ Hex.prefixed root)
  | noCheckpoint => some "no checkpoints recorded"
  | leafTaken leaf next =>
      some ("leaf " ++ toString leaf ++ " already claimed, next free is " ++ toString next)
  | leafRejected leaf => some ("leaf " ++ toString leaf ++ " already claimed")
  | leafBeyondNext leaf next =>
      some ("leaf " ++ toString leaf ++ " would leave a gap, next free is " ++ toString next)
  | leafGap expected found =>
      some ("leaf index gap: expected " ++ toString expected ++ ", found " ++ toString found)
  | rootRecorded root => some ("root " ++ Hex.prefixed root ++ " already recorded")
  | rootRejected root => some ("root " ++ Hex.prefixed root ++ " rejected by storage")
  | statusWithoutTime status minedAt =>
      some ("status " ++ status.text ++ " with mined_at=" ++ describeTime minedAt)
  | missingIdentity commitment leaf =>
      some ("checkpoint references missing identity " ++ Hex.prefixed commitment ++ " at leaf " ++
        toString leaf)
  | prefixTaken count root =>
      some ("prefix " ++ toString count ++ " already checkpointed as " ++ Hex.prefixed root)
  | transition current next => some (current.text ++ " -> " ++ next.text ++ " not allowed")
  | timeMissing => some "mined requires mined_at"
  | earlierTime root recorded given =>
      some ("root " ++ Hex.prefixed root ++ " already mined at " ++ recorded.text ++
        ", refusing earlier " ++ given.text)
  | keepsChanging root =>
      some ("status of root " ++ Hex.prefixed root ++ " keeps changing underneath")
  | storageFailed => none
  | diskAway => some "disk went away"
  | checkpointRefused => some "checkpoint refused"
  | busy timeout => some ("sequencer busy for more than " ++ seconds timeout)
  | exceeded leaf timeout => some ("append of leaf " ++ toString leaf ++ " exceeded " ++ seconds timeout)
  | halted reason => some ("sequencer halted: " ++ reason)
  | noCheckpointFor identities => some (toString identities ++ " identities but no checkpoint")
  | countMismatch covered held =>
      some ("latest checkpoint covers " ++ toString covered ++ " identities, ledger holds " ++
        toString held)
  | rootMismatch recorded recomputed =>
      some ("latest root " ++ Hex.prefixed recorded ++ " does not match recomputed " ++
        Hex.prefixed recomputed)
  | proofMismatch proof latest =>
      some ("proof root " ++ Hex.prefixed proof ++ " does not match latest checkpoint " ++
        Hex.prefixed latest)
  | missingPrefix count => some ("missing checkpoint for prefix " ++ toString count)
  | beyondLedger count => some ("checkpoint for prefix " ++ toString count ++ " beyond ledger")
  | wrongLastIdentity root =>
      some ("checkpoint " ++ Hex.prefixed root ++ " names wrong last identity")
  | prefixMismatch count recorded recomputed =>
      some ("prefix " ++ toString count ++ ": recorded " ++ Hex.prefixed recorded ++ ", recomputed " ++
        Hex.prefixed recomputed)
  | checkpointCountMismatch identities checkpoints =>
      some (toString identities ++ " identities but " ++ toString checkpoints ++ " checkpoints")
  | treeFull depth => some ("tree of depth " ++ toString depth ++ " is full")

/-- The wording, or the code of the category where there is none. -/
def wording (refusal : Refusal) : String :=
  refusal.category.wording refusal.message?

end Refusal

end CommitmentLog
