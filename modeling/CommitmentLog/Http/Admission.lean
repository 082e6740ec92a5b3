import CommitmentLog.Http.Message

/-!
# Admission

What stands between a request and its endpoint: the body must hold what is asked for, and a confirmation
must carry the token of the notifier.  Without a configured token no confirmation is admitted.
-/

set_option autoImplicit false

namespace CommitmentLog.Http

/-! ## Bodies -/

/-- What a request submits: nothing, a value, or a body of another type than JSON, which may be a text. -/
inductive Submission where
  | nothing
  | value (value : Json)
  | other (isText : Bool)

/-- The number of values in a body that may contain each other. -/
def Body.maxDepth : Nat := 950

def Body.malformedAt (position : Nat) : Issue :=
  { kind := .malformedBody, location := [.field "body", .position position] }

/-- What a JSON body submits.  One that cannot be read has a reply of its own. -/
def Body.json? : Body → Except Reply Submission
  | .value content => .ok (.value content)
  | .ofBytes bytes =>
      if bytes.isEmpty then .ok .nothing
      else
        match (Text.ofBytes? bytes).map (Json.read maxDepth) with
        | some (.ok content) => .ok (.value content)
        | some (.error (.malformed position)) => .error (.issues [malformedAt position])
        | _ => .error (.response (.named 400 "There was an error parsing the body"))

/-- Whether a content type names JSON, or a type that is written in JSON.  What is no type at all, for want of
a slash or because of a second one, names plain text. -/
def namesJson (given : String) : Bool :=
  let type := (Text.trim Text.isBlank (cut ';' given.toList).1).map Char.toLower
  match Text.splitAt '/' type with
  | [main, sub] =>
      main = "application".toList && (sub = "json".toList || "+json".toList.isSuffixOf sub)
  | _ => false

/-- What a request submits.  A body without a type is taken for JSON. -/
def Arrival.submission? (arrival : Arrival) : Except Reply Submission :=
  let given := (HeaderField.value? arrival.headers contentType).getD ""
  if arrival.body.isEmpty then .ok .nothing
  else if given.isEmpty || namesJson given then arrival.body.json?
  else .ok (.other arrival.body.isText)

def bodyNoObject (shown : Bool) : Reply :=
  .issues [{ Issue.inField .bodyNoObject "body" with shown }]

def submitted {α : Type} (read : Json → Except (List Issue) α) : Submission → Except Reply α
  | .nothing => .error (.issues [.inField .missing "body"])
  | .other isText => .error (bodyNoObject isText)
  | .value content =>
      if Submitted.isObject content then
        (read content).mapError fun issues => .issues (issues.map (Issue.within "body"))
      else .error (bodyNoObject content.isWritable)

/-! ## The token of the notifier -/

def tokenHeader : String := "x-mining-token"

/-- Why a confirmation is not admitted, if it is not. -/
def tokenRefusal? (configured : Option String) (headers : List HeaderField) : Option Response :=
  let token := configured.getD ""
  let given := (HeaderField.value? headers tokenHeader).getD ""
  if token.isEmpty then some (.named 403 "mining_confirmation_disabled")
  else if given.isEmpty then some (.named 401 "missing_mining_token")
  else if given = token then none
  else some (.named 403 "invalid_mining_token")

end CommitmentLog.Http
