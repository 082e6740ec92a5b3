import CommitmentLog.Http.Endpoint

/-!
# Replies

The responses that the rules of the service provide for, and the replies that have none of them.  A failure has
a response if it is a refusal of the log.  A list of issues has one unless it is about a value that cannot be
written, since the response would show that value; a body that can be written as a whole has no such value.
-/

set_option autoImplicit false

namespace CommitmentLog

open Json (array)

/-! ## Values that can be written -/

namespace Json

variable {name : String} {value content : Json}

end Json

/-! ## Submitted values at fault -/

namespace Submitted

variable {α : Type} {read : Json → Except (List Issue) α} {value : Json}

/-- A value is at fault, and some issue is about a value that cannot be written. -/
def Unshowable (read : Json → Except (List Issue) α) (value : Json) : Prop :=
  ∃ issues, read value = .error issues ∧ ∃ issue ∈ issues, issue.shown = false

/-- A value has no response: its issues cannot be shown, or there is none to what it says. -/
def Unanswerable (read : Json → Except (List Issue) α) (without : α → Prop) (value : Json) : Prop :=
  Unshowable read value ∨ ∃ result, read value = .ok result ∧ without result

end Submitted

namespace Http

/-! ## Responses by rule -/

/-- A response that some rule of the service provides for: success, a refusal of the log under its own number
and code, a list of issues, or one of the refusals of the request itself. -/
inductive Response.Mapped : Response → Prop
  | success (content : Content) : Mapped { status := 200, content }
  | refused (refusal : Refusal) : Mapped (.named refusal.category.statusCode refusal.category.code)
  | issues (issues : List Issue) : Mapped (.detail 422 (array (issues.map Issue.json)))
  | badLimit : Mapped (.named 400 "bad_limit")
  | badRoot : Mapped (.named 422 "bad_root")
  | unreadableBody : Mapped (.named 400 "There was an error parsing the body")
  | confirmationDisabled : Mapped (.named 403 "mining_confirmation_disabled")
  | missingToken : Mapped (.named 401 "missing_mining_token")
  | invalidToken : Mapped (.named 403 "invalid_mining_token")

namespace Reply

/-! ## Replies without a response -/

/-- There is no response in the given case, and in every other case there is one by rule. -/
def MappedUnless (unanswerable : Prop) : Reply → Prop
  | .crash => unanswerable
  | .response given => ¬unanswerable ∧ given.Mapped

end Reply

/-! ## Submissions -/

section Submissions

variable {α : Type} {read : Json → Except (List Issue) α} {submission : Submission} {reply : Reply}

/-- A submission has no response: it is a value that has none, or it is not even a text. -/
def Submission.Unanswerable (read : Json → Except (List Issue) α) (without : α → Prop) :
    Submission → Prop
  | .nothing => False
  | .value content => Submitted.Unanswerable read without content
  | .other isText => isText = false

variable {without : α → Prop}

end Submissions

end Http

end CommitmentLog
