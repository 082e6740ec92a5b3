import CommitmentLog.Appender.Inclusion
import CommitmentLog.Http.Header
import CommitmentLog.Http.Target
import CommitmentLog.Json.Reader
import CommitmentLog.Text.Wide
import CommitmentLog.Validation.Submitted

/-!
# Requests and responses

What arrives at the service and what it answers, and the structured forms of the things that responses hold.
-/

set_option autoImplicit false

namespace CommitmentLog

open Json (integer string array object)

/-! ## Structured forms -/

def Checkpoint.jsonBy (written : Timestamp → String) (checkpoint : Checkpoint) : Json :=
  object
    [("root", string (Hex.prefixed checkpoint.root)),
     ("last_identity", string (Hex.prefixed checkpoint.lastIdentity)),
     ("leaf_index", integer checkpoint.lastLeafIndex),
     ("identity_count", integer checkpoint.identityCount),
     ("status", string checkpoint.status.text),
     ("created_at", string (written checkpoint.createdAt)),
     ("mined_at", (checkpoint.minedAt.map fun time => string (written time)).getD .null)]

/-- A checkpoint as a response shows it: the offset of a time is written to the minute. -/
def Checkpoint.json (checkpoint : Checkpoint) : Json :=
  checkpoint.jsonBy Timestamp.minuteText

def Tree.Side.text : Tree.Side → String
  | .left => "L"
  | .right => "R"

def Inclusion.json (inclusion : Inclusion) : Json :=
  object
    [("leaf_index", integer inclusion.leafIndex),
     ("status", string inclusion.status.text),
     ("root", string (Hex.prefixed inclusion.root)),
     ("leaf", string (Hex.prefixed inclusion.proof.leaf)),
     ("siblings", array (inclusion.proof.siblings.map fun (side, sibling) =>
       array [string side.text, string (Hex.prefixed sibling)])),
     ("proof_valid", .bool inclusion.valid)]

def Identity.json (identity : Identity) : Json :=
  object
    [("leaf_index", integer identity.leafIndex),
     ("commitment", string (Hex.prefixed identity.commitment))]

def Ledger.Page.cursorJson (page : Ledger.Page) : Json :=
  match page.next with
  | none => .null
  | some cursor => integer cursor

def Place.json : Place → Json
  | .field name => string name
  | .position index => integer index

def Issue.json (issue : Issue) : Json :=
  let fault : List (Option String × Json) :=
    [("type", string issue.kind.text), ("loc", array (issue.location.map Place.json))]
  match issue.kind.message? with
  | none => object fault
  | some message => object (fault ++ [(some "msg", string message)])

namespace Http

/-! ## Requests -/

/-- The body of a request: its bytes, or the value whose JSON text it is. -/
inductive Body where
  | ofBytes (bytes : Bytes)
  | value (value : Json)

namespace Body

def empty : Body :=
  ofBytes []

def isEmpty : Body → Bool
  | ofBytes bytes => bytes.isEmpty
  | value _ => false

/-- Whether a body is UTF-8, so that it can be shown as a text. -/
def isText : Body → Bool
  | ofBytes bytes => (Text.Utf8.decode? bytes).isSome
  | value _ => true

end Body

structure Arrival where
  method : String
  target : Target
  headers : List HeaderField
  body : Body

def contentType : String := "content-type"

/-! ## Responses -/

inductive Content where
  | json (value : Json)
  | text (value : String)
  | metrics

structure Response where
  status : Nat
  content : Content

def Response.ok (value : Json) : Response :=
  { status := 200, content := .json value }

def Response.detail (status : Nat) (detail : Json) : Response :=
  { status, content := .json (object [("detail", detail)]) }

def Response.named (status : Nat) (name : String) : Response :=
  .detail status (string name)

def Response.ofText (status : Nat) (text : String) : Response :=
  { status, content := .text text }

/-- What comes of a request: a response, or a failure that no rule turns into one. -/
inductive Reply where
  | response (response : Response)
  | crash

/-- The reply that lists issues.  A response shows the values at fault, so there is none if one of them
cannot be written. -/
def Reply.issues (issues : List Issue) : Reply :=
  if issues.all (·.shown) then .response (.detail 422 (array (issues.map Issue.json))) else .crash

/-- The reply to a failure.  Every refusal has a response of its own. -/
def Reply.ofFailure : Failure → Reply
  | .refused refusal => .response (.named refusal.category.statusCode refusal.category.code)
  | _ => .crash

def Reply.ofResult {α : Type} (json : α → Json) : Except Failure α → Reply
  | .ok value => .response (.ok (json value))
  | .error failure => .ofFailure failure

end Http

end CommitmentLog
