import CommitmentLog.Appender.Append
import CommitmentLog.Appender.Audit
import CommitmentLog.Appender.Basic
import CommitmentLog.Appender.Inclusion
import CommitmentLog.Appender.Recovery
import CommitmentLog.Checkpoints
import CommitmentLog.Conditions
import CommitmentLog.Configuration
import CommitmentLog.Confirmation
import CommitmentLog.Confirmation.Race
import CommitmentLog.Counters
import CommitmentLog.Deployment
import CommitmentLog.Failure
import CommitmentLog.Hex
import CommitmentLog.Http.Admission
import CommitmentLog.Http.Client
import CommitmentLog.Http.Endpoint
import CommitmentLog.Http.Header
import CommitmentLog.Http.Message
import CommitmentLog.Http.Preflight
import CommitmentLog.Http.Route
import CommitmentLog.Http.Service
import CommitmentLog.Http.Target
import CommitmentLog.Json.Basic
import CommitmentLog.Json.Reader
import CommitmentLog.Json.Writable
import CommitmentLog.Ledger
import CommitmentLog.Number.Arithmetic
import CommitmentLog.Number.Binary
import CommitmentLog.Number.Decimal
import CommitmentLog.Number.Extended
import CommitmentLog.Number.Shortest
import CommitmentLog.Proofs.Appender.Append
import CommitmentLog.Proofs.Appender.Atomicity
import CommitmentLog.Proofs.Appender.Audit
import CommitmentLog.Proofs.Appender.Coherence
import CommitmentLog.Proofs.Appender.Halt
import CommitmentLog.Proofs.Appender.History
import CommitmentLog.Proofs.Appender.Inclusion
import CommitmentLog.Proofs.Appender.Recovery
import CommitmentLog.Proofs.Appender.Skew
import CommitmentLog.Proofs.Appender.Statements
import CommitmentLog.Proofs.Appender.Trees
import CommitmentLog.Proofs.Appender.Undisturbed
import CommitmentLog.Proofs.Appender.Verdict
import CommitmentLog.Proofs.Checkpoints.Checks
import CommitmentLog.Proofs.Checkpoints.Insert
import CommitmentLog.Proofs.Conditions
import CommitmentLog.Proofs.Confirmation.Alone
import CommitmentLog.Proofs.Confirmation.Amid
import CommitmentLog.Proofs.Confirmation.Calls
import CommitmentLog.Proofs.Confirmation.Faultless
import CommitmentLog.Proofs.Confirmation.Instants
import CommitmentLog.Proofs.Confirmation.Keeps
import CommitmentLog.Proofs.Confirmation.Race
import CommitmentLog.Proofs.Confirmation.Settle
import CommitmentLog.Proofs.Confirmation.Stages
import CommitmentLog.Proofs.Counters
import CommitmentLog.Proofs.Deployment.Accounts
import CommitmentLog.Proofs.Deployment.Continuity
import CommitmentLog.Proofs.Deployment.Decision
import CommitmentLog.Proofs.Deployment.Growth
import CommitmentLog.Proofs.Deployment.Inclusion
import CommitmentLog.Proofs.Deployment.Interchange
import CommitmentLog.Proofs.Deployment.Latch
import CommitmentLog.Proofs.Deployment.Lawful
import CommitmentLog.Proofs.Deployment.Readings
import CommitmentLog.Proofs.Deployment.Run
import CommitmentLog.Proofs.Deployment.Translation
import CommitmentLog.Proofs.Hex
import CommitmentLog.Proofs.Http.Endpoints
import CommitmentLog.Proofs.Http.Replies
import CommitmentLog.Proofs.Http.Service
import CommitmentLog.Proofs.Http.Unadmitted
import CommitmentLog.Proofs.Ledger.Append
import CommitmentLog.Proofs.Ledger.Dense
import CommitmentLog.Proofs.Ledger.Find
import CommitmentLog.Proofs.Ledger.Paging
import CommitmentLog.Proofs.Outcome
import CommitmentLog.Proofs.Session.Ledger
import CommitmentLog.Proofs.Session.Run
import CommitmentLog.Proofs.Store.Consistent
import CommitmentLog.Proofs.Store.Continues
import CommitmentLog.Proofs.Store.Insertion
import CommitmentLog.Proofs.Store.Latest
import CommitmentLog.Proofs.Store.Lawful
import CommitmentLog.Proofs.Store.Migration
import CommitmentLog.Proofs.Store.Plan
import CommitmentLog.Proofs.Store.Sound
import CommitmentLog.Proofs.Store.StatusChange
import CommitmentLog.Proofs.Time.Calendar
import CommitmentLog.Proofs.Time.Instant
import CommitmentLog.Proofs.Tree.Binding
import CommitmentLog.Proofs.Tree.Forgery
import CommitmentLog.Proofs.Tree.Frontier
import CommitmentLog.Proofs.Tree.Layers
import CommitmentLog.Proofs.Tree.Node
import CommitmentLog.Proofs.Tree.Path
import CommitmentLog.Proofs.Tree.Sharing
import CommitmentLog.Proofs.Tree.Slots
import CommitmentLog.Proofs.Validation.Digest
import CommitmentLog.Refusal
import CommitmentLog.Session
import CommitmentLog.Sha256
import CommitmentLog.Store.Change
import CommitmentLog.Store.Definition
import CommitmentLog.Store.Plan
import CommitmentLog.Store.Schema
import CommitmentLog.Store.Statement
import CommitmentLog.Store.Status
import CommitmentLog.Store.Tables
import CommitmentLog.Store.Write
import CommitmentLog.Text.Blank
import CommitmentLog.Text.Printable
import CommitmentLog.Text.Quoted
import CommitmentLog.Text.Surrogate
import CommitmentLog.Text.Utf8
import CommitmentLog.Text.Wide
import CommitmentLog.Time.Civil
import CommitmentLog.Time.Reader
import CommitmentLog.Time.Timestamp
import CommitmentLog.Tree.Basic
import CommitmentLog.Tree.Proof
import CommitmentLog.Tree.Reference
import CommitmentLog.Validation.Integer
import CommitmentLog.Validation.Issue
import CommitmentLog.Validation.Submitted
