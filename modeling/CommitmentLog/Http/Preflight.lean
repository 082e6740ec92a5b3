import CommitmentLog.Http.Message

/-!
# Preflights

Before a page calls the service from a browser, the browser asks whether it may: it names the origin of the
page and the method of the call.  Such a question is answered before any route is looked up.
-/

set_option autoImplicit false

namespace CommitmentLog.Http

structure Preflight where
  origin : String
  method : String
  deriving DecidableEq, Repr

namespace Preflight

def ofArrival? (arrival : Arrival) : Option Preflight :=
  if arrival.method = "OPTIONS" then do
    let origin ← HeaderField.value? arrival.headers "origin"
    let method ← HeaderField.value? arrival.headers "access-control-request-method"
    some { origin, method }
  else none

def allowedMethods : List String :=
  ["DELETE", "GET", "HEAD", "OPTIONS", "PATCH", "POST", "PUT"]

/-- What a page that may call would have to change, where a star among the origins stands for all. -/
def objections (origins : List String) (preflight : Preflight) : List String :=
  (if origins.contains "*" || origins.contains preflight.origin then [] else ["origin"]) ++
    (if allowedMethods.contains preflight.method then [] else ["method"])

def response (origins : List String) (preflight : Preflight) : Response :=
  match preflight.objections origins with
  | [] => .ofText 200 "OK"
  | objections => .ofText 400 ("Disallowed CORS " ++ ", ".intercalate objections)

end Preflight

end CommitmentLog.Http
