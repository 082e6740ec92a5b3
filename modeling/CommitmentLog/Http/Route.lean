import CommitmentLog.Http.Target

/-!
# Routes

The routes of the service.  A path is looked up from the first route to the last: the first one that has
both the path and the method answers; if only paths fit, the first of those stands for the refusal.
-/

set_option autoImplicit false

namespace CommitmentLog.Http

inductive Endpoint where
  | description
  | manual
  | manualRedirect
  | home
  | health
  | ready
  | metrics
  | insertIdentity
  | inclusionProof
  | latestRoot
  | oneRoot
  | roots
  | identities
  | confirm
  | pendingRoots
  deriving DecidableEq, Repr

/-- A route: its method, the fixed start of its path, and the name of the part that follows. -/
structure Route where
  endpoint : Endpoint
  method : String
  stem : String
  parameter : Option String := none
  /-- A page about the service.  It also answers requests for the head alone, and is counted under the path
  that was asked for. -/
  isPage : Bool := false
  deriving DecidableEq, Repr

namespace Route

def template (route : Route) : String :=
  match route.parameter with
  | none => route.stem
  | some name => route.stem ++ "\x7b" ++ name ++ "\x7d"

/-- The path that a request to the route is counted under. -/
def label (route : Route) (target : Target) : String :=
  if route.isPage then target.label else route.template

def takes (route : Route) (method : String) : Bool :=
  route.method = method || (route.isPage && method = "HEAD")

def behind? : List Char → List Char → Option (List Char)
  | [], path => some path
  | _ :: _, [] => none
  | expected :: stem, character :: path =>
      if expected = character then behind? stem path else none

/-- The parameter in a path, if the route has the path.  A path without a parameter may end in one line
feed, and a parameter holds no slash. -/
def parameter? (route : Route) (path : List Char) : Option (List Char) :=
  match behind? route.stem.toList path, route.parameter with
  | some rest, none => if rest = [] ∨ rest = ['\n'] then some [] else none
  | some rest, some _ => if rest.isEmpty ∨ rest.contains '/' then none else some rest
  | none, _ => none

/-- All routes, in the order of the lookup. -/
def all : List Route :=
  [{ endpoint := .description, method := "GET", stem := "/openapi.json", isPage := true },
   { endpoint := .manual, method := "GET", stem := "/docs", isPage := true },
   { endpoint := .manualRedirect, method := "GET", stem := "/docs/oauth2-redirect", isPage := true },
   { endpoint := .home, method := "GET", stem := "/" },
   { endpoint := .health, method := "GET", stem := "/health" },
   { endpoint := .ready, method := "GET", stem := "/ready" },
   { endpoint := .metrics, method := "GET", stem := "/metrics" },
   { endpoint := .insertIdentity, method := "POST", stem := "/insertIdentity" },
   { endpoint := .inclusionProof, method := "POST", stem := "/inclusionProof" },
   { endpoint := .latestRoot, method := "GET", stem := "/roots/latest" },
   { endpoint := .oneRoot, method := "GET", stem := "/roots/", parameter := some "root_hex" },
   { endpoint := .roots, method := "GET", stem := "/roots" },
   { endpoint := .identities, method := "GET", stem := "/identities" },
   { endpoint := .confirm, method := "POST", stem := "/mining/confirm" },
   { endpoint := .pendingRoots, method := "GET", stem := "/mining/pending" }]

def having (path : List Char) : List (Route × List Char) :=
  all.filterMap fun route => (route.parameter? path).map fun parameter => (route, parameter)

inductive Lookup where
  | found (route : Route) (parameter : List Char)
  /-- The path exists, but not for the method. -/
  | otherMethod (route : Route)
  | unknown
  deriving DecidableEq, Repr

def lookup (method : String) (path : List Char) : Lookup :=
  let candidates := having path
  match candidates.find? fun candidate => candidate.1.takes method, candidates with
  | some (route, parameter), _ => .found route parameter
  | none, (route, _) :: _ => .otherMethod route
  | none, [] => .unknown

end Route

end CommitmentLog.Http
