import CommitmentLog.Http.Client
import CommitmentLog.Http.Endpoint
import CommitmentLog.Http.Preflight
import CommitmentLog.Sha256

/-!
# The service

The log as remote callers reach it.  Every request is one step from a service to the next.  Every answered
request is counted under its route; a preflight, and a failure that no rule turns into a response, is
answered and not counted.
-/

set_option autoImplicit false

namespace CommitmentLog.Http.Service

/-! ## Start -/

def appender (service : Service) : Appender :=
  service.deployment.appender appenderName

def perform (service : Service) (conditions : Conditions) (operation : Operation) :
    Except Failure Answer × Service :=
  let (result, deployment) := service.deployment.step service.setup conditions operation
  (result, { service with deployment })

/-- Starts or restarts a service on its store: a fresh appender recovers its tree.  If the store
contradicts itself the appender is halted and the service runs all the same. -/
def start (service : Service) (conditions : Conditions) : Service :=
  let (_, service) := service.perform conditions (.restart appenderName)
  (service.perform conditions (.recover appenderName)).2

/-- The service that settings describe, not started yet; none if they describe no tree or no bound for
waiting. -/
def ofSettings? (settings : Settings) (documentation : Documentation := {}) : Option Service :=
  match settings.initialLeaf, settings.appendTimeout with
  | .ok emptyLeaf, .finite timeout =>
      match Tree.Shape.ofDepth settings.treeDepth emptyLeaf Sha256.parent with
      | .error _ => none
      | .ok shape =>
          some {
            setup := { shape, timeout }
            miningToken := settings.miningToken
            maxExportLimit := settings.maxExportLimit
            allowedOrigins := settings.allowedOriginsList
            documentation }
  | _, _ => none

/-! ## Requests -/

def counted (service : Service) (method path : String) (status : Nat) : Service :=
  let counters := service.deployment.counters.afterRequest { method, path, status }
  { service with
    deployment := { service.deployment with counters }
    timings := { method, path } :: service.timings }

def crashed : Response :=
  .ofText 500 "Internal Server Error"

/-- Whether a path differs from that of some route only by slashes at its end. -/
def isMisspelt (target : Target) : Bool :=
  target.path != ['/'] && !(Route.having target.toggledPath).isEmpty

/-- Answers a request that is no preflight.  A path that is right but for the slashes at its end is
redirected, whatever the method. -/
def answerRouted (service : Service) (conditions : Conditions) (arrival : Arrival) :
    Response × Service :=
  let { method, target, .. } := arrival
  match Route.lookup method target.path with
  | .found route parameter =>
      match service.answer conditions arrival parameter route.endpoint with
      | (.crash, service) => (crashed, service)
      | (.response response, service) =>
          (response, service.counted method (route.label target) response.status)
  | .otherMethod route =>
      (.named 405 "Method Not Allowed", service.counted method (route.label target) 405)
  | .unknown =>
      let response := if isMisspelt target then .ofText 307 "" else .named 404 "Not Found"
      (response, service.counted method target.label response.status)

def serve (service : Service) (conditions : Conditions) (arrival : Arrival) : Response × Service :=
  match Preflight.ofArrival? arrival with
  | some preflight => (preflight.response service.allowedOrigins, service)
  | none => service.answerRouted conditions arrival

/-- Serves the request of a caller, who sees what the client makes of the response. -/
def handle (service : Service) (conditions : Conditions) (request : Request) : Response × Service :=
  let (response, service) := service.serve conditions request.arrival
  (response.seen request.arrival.method, service)

end CommitmentLog.Http.Service
