import CommitmentLog.Configuration
import CommitmentLog.Deployment
import CommitmentLog.Http.Admission
import CommitmentLog.Http.Route

/-!
# Endpoints

What each endpoint of the service does.  Reading endpoints ask the store, inserting asks the one appender,
and confirming looks at the token of the notifier before it looks at what is submitted.  A body that cannot be
read is refused before anything else.
-/

set_option autoImplicit false

namespace CommitmentLog.Http

open Json (integer string array object)

/-- The pages about the service, which the framework makes from its routes. -/
structure Documentation where
  description : Json := .null
  manual : String := ""
  manualRedirect : String := ""

structure Timing where
  method : String
  path : String
  deriving DecidableEq, Repr

structure Service where
  setup : Setup
  miningToken : Option String := none
  /-- The most identities on one page. -/
  maxExportLimit : Int
  /-- The origins of the pages that may call the service; a star stands for all. -/
  allowedOrigins : List String := ["*"]
  documentation : Documentation := {}
  deployment : Deployment := {}
  /-- The latest first. -/
  timings : List Timing := []

namespace Service

def appenderName : String := "service"

/-! ## Queries -/

def queryInteger {α : Type} (target : Target) (key : String) (default : α) (wrap : Int → α) :
    Except Issue α :=
  match target.value? key with
  | none => .ok default
  | some text =>
      match IssueKind.integer text with
      | .ok value => .ok (wrap value)
      | .error kind => .error { kind, location := [.field "query", .field key] }

def defaultLimit : Int := 500

/-- The cursor and the limit in the query, or the issues they have. -/
def paging (target : Target) : Except (List Issue) (Option Int × Int) :=
  match queryInteger target "cursor" none some, queryInteger target "limit" defaultLimit id with
  | .ok cursor, .ok limit => .ok (cursor, limit)
  | cursor, limit => .error (Issue.ofResult cursor ++ Issue.ofResult limit)

/-! ## Reading -/

def identities (service : Service) (conditions : Conditions) (target : Target) : Reply :=
  match paging target with
  | .error issues => .issues issues
  | .ok (cursor, limit) =>
      if limit < 1 ∨ service.maxExportLimit < limit then .response (.named 400 "bad_limit")
      else
        let tables := service.deployment.tables
        .ofResult id do
          let page ← Ledger.page tables cursor limit
          let count ← Ledger.count conditions tables
          .ok (object
            [("items", array (page.items.map Identity.json)),
             ("next_cursor", page.cursorJson),
             ("count", integer count)])

def listed (service : Service) (status : Status) : Reply :=
  .response (.ok (array ((service.deployment.tables.withStatus status).map Checkpoint.json)))

def roots (service : Service) (target : Target) : Reply :=
  match target.value? "status" with
  | none => service.listed .pending
  | some text =>
      match Status.ofText? (String.ofList text) with
      | some status => service.listed status
      | none =>
          .issues [{ kind := .noStatus, location := [.field "query", .field "status"] }]

def oneRoot (service : Service) (parameter : List Char) : Reply :=
  match Hex.readDigest parameter with
  | .error _ => .response (.named 422 "bad_root")
  | .ok root => .ofResult Checkpoint.json (Checkpoints.get service.deployment.tables root)

/-! ## Submitting -/

def insertIdentity (service : Service) (conditions : Conditions) (submission : Submission) :
    Reply × Service :=
  match submitted Submitted.commitment submission with
  | .error reply => (reply, service)
  | .ok commitment =>
      let (result, deployment) :=
        service.deployment.append service.setup conditions appenderName commitment.bytes
      (.ofResult Checkpoint.json result, { service with deployment })

def inclusionProof (service : Service) (conditions : Conditions) (submission : Submission) : Reply :=
  match submitted Submitted.commitment submission with
  | .error reply => reply
  | .ok commitment =>
      .ofResult Inclusion.json
        (service.setup.inclusionProof conditions service.deployment.tables commitment.bytes)

def confirmSubmitted (service : Service) (conditions : Conditions) (submission : Submission) :
    Reply × Service :=
  match submitted Submitted.confirmation submission with
  | .error reply => (reply, service)
  | .ok confirmation =>
      let (result, deployment) :=
        service.deployment.confirm service.setup conditions [] confirmation.root.bytes
          confirmation.minedAt
      (.ofResult Checkpoint.json result, { service with deployment })

def confirm (service : Service) (conditions : Conditions) (headers : List HeaderField)
    (submission : Submission) : Reply × Service :=
  match tokenRefusal? service.miningToken headers with
  | some refusal => (.response refusal, service)
  | none => service.confirmSubmitted conditions submission

def reading (service : Service) (arrival : Arrival) (act : Submission → Reply × Service) :
    Reply × Service :=
  match arrival.submission? with
  | .error reply => (reply, service)
  | .ok submission => act submission

/-! ## All endpoints -/

def working : List (Option String × Json) :=
  [("ok", .bool true)]

def answer (service : Service) (conditions : Conditions) (arrival : Arrival) (parameter : List Char) :
    Endpoint → Reply × Service
  | .description => (.response (.ok service.documentation.description), service)
  | .manual => (.response (.ofText 200 service.documentation.manual), service)
  | .manualRedirect => (.response (.ofText 200 service.documentation.manualRedirect), service)
  | .home => (.response (.ok (object (working ++ [(some "service", string "rootledger")]))), service)
  | .health => (.response (.ok (object working)), service)
  | .ready => (.response (.ok (object working)), service)
  | .metrics => (.response { status := 200, content := .metrics }, service)
  | .insertIdentity => service.reading arrival (service.insertIdentity conditions)
  | .inclusionProof =>
      service.reading arrival fun submission => (service.inclusionProof conditions submission, service)
  | .latestRoot =>
      (.ofResult Checkpoint.json (Checkpoints.latest service.deployment.tables), service)
  | .oneRoot => (service.oneRoot parameter, service)
  | .roots => (service.roots arrival.target, service)
  | .identities => (service.identities conditions arrival.target, service)
  | .confirm => service.reading arrival (service.confirm conditions arrival.headers)
  | .pendingRoots => (service.listed .pending, service)

end Service

end CommitmentLog.Http
