import CommitmentLog.Proofs.Http.Endpoints

/-!
# Every request is answered

A service that starts on an empty store and serves requests without faults stays healthy: whatever the
requests were, the tables are sound and the appender runs.  So a request to a route of the service has a
response by rule, except where a number is out of range or an issue quotes what cannot be written, and then
there is none.  A request that does not succeed leaves the tables as they are.  The requests that a service
counts are the ones whose time it takes.
-/

set_option autoImplicit false

namespace CommitmentLog

theorem Counters.afterAppend_requests {α : Type} (counters : Counters) (result : Except Failure α) :
    (counters.afterAppend result).requests = counters.requests := by
  cases result with
  | ok value => rfl
  | error failure => cases failure <;> rfl

theorem Counters.afterConfirmation_requests (counters : Counters) (counted : Bool) :
    (counters.afterConfirmation counted).requests = counters.requests := by
  cases counted <;> rfl

namespace Deployment

variable (deployment : Deployment) (setup : Setup) (conditions : Conditions)

theorem append_requests (name : String) (commitment : Bytes) :
    (deployment.append setup conditions name commitment).2.counters.requests =
      deployment.counters.requests := by
  rw [append]
  exact Counters.afterAppend_requests _ _

theorem confirm_requests (script : List Confirmation.Interruption) (root : Bytes)
    (minedAt : Timestamp) :
    (deployment.confirm setup conditions script root minedAt).2.counters.requests =
      deployment.counters.requests := by
  rw [confirm]
  exact Counters.afterConfirmation_requests _ _

end Deployment

namespace Http

open Store

def Request.Reaches (request : Request) (route : Route) (parameter : List Char) : Prop :=
  Route.lookup request.arrival.method request.arrival.target.path = .found route parameter

structure Visit where
  conditions : Conditions
  request : Request

theorem Response.seen_of_not_head {response : Response} {method : String} (whole : method ≠ "HEAD") :
    response.seen method = response :=
  if_neg whole

/-! ## Routes -/

namespace Route

theorem takes_of_lookup {method : String} {path : List Char} {route : Route} {parameter : List Char}
    (found : lookup method path = .found route parameter) :
    route ∈ all ∧ (route.method = method ∨ (route.isPage = true ∧ method = "HEAD")) := by
  rw [lookup] at found
  split at found
  case h_1 candidate =>
    cases found
    have member := List.mem_of_find?_eq_some candidate
    obtain ⟨other, inAll, fits⟩ := List.mem_filterMap.mp member
    obtain ⟨_, _, same⟩ := Option.map_eq_some_iff.mp fits
    cases same
    exact ⟨inAll, by simpa [takes] using List.find?_some candidate⟩
  case h_2 => cases found
  case h_3 => cases found

theorem method_of_mem : ∀ route ∈ all, route.method = "GET" ∨ route.method = "POST" := by
  decide

theorem endpoint_of_isPage :
    ∀ route ∈ all, route.isPage = true → route.endpoint ∈ [.description, .manual, .manualRedirect] := by
  decide

theorem isPage_of_head {path : List Char} {route : Route} {parameter : List Char}
    (found : lookup "HEAD" path = .found route parameter) : route.isPage = true := by
  obtain ⟨member, named | ⟨page, _⟩⟩ := takes_of_lookup found
  · rcases method_of_mem route member with get | post
    · rw [get] at named
      exact absurd named (by decide)
    · rw [post] at named
      exact absurd named (by decide)
  · exact page

theorem not_options_of_lookup {method : String} {path : List Char} {route : Route}
    {parameter : List Char} (found : lookup method path = .found route parameter) :
    method ≠ "OPTIONS" := by
  obtain ⟨member, named | ⟨_, rfl⟩⟩ := takes_of_lookup found
  · rcases method_of_mem route member with get | post
    · rw [← named, get]
      decide
    · rw [← named, post]
      decide
  · decide

end Route

namespace Service

variable {service : Service} {conditions : Conditions}

def visited (service : Service) (visits : List Visit) : Service :=
  visits.foldl (fun service visit => (service.handle visit.conditions visit.request).2) service

theorem visited_cons (service : Service) (visit : Visit) (rest : List Visit) :
    service.visited (visit :: rest) =
      (service.handle visit.conditions visit.request).2.visited rest :=
  List.foldl_cons ..

/-! ## What a request leaves -/

/-- What an endpoint leaves: only an insertion and an admitted confirmation change anything, and each of them
does so by one operation. -/
inductive Leaves (service : Service) (conditions : Conditions) (arrival : Arrival) :
    Endpoint → Service → Prop
  | unchanged (endpoint : Endpoint) : Leaves service conditions arrival endpoint service
  | appended (commitment : Bytes) (deployment : Deployment)
      (appends : (service.deployment.append service.setup conditions appenderName commitment).2 =
        deployment) :
      Leaves service conditions arrival .insertIdentity { service with deployment }
  | confirmed (root : Bytes) (minedAt : Timestamp) (deployment : Deployment)
      (admitted : tokenRefusal? service.miningToken arrival.headers = none)
      (confirms : (service.deployment.confirm service.setup conditions [] root minedAt).2 = deployment) :
      Leaves service conditions arrival .confirm { service with deployment }

theorem answer_leaves (service : Service) (conditions : Conditions) (arrival : Arrival)
    (parameter : List Char) (endpoint : Endpoint) :
    service.Leaves conditions arrival endpoint
      (service.answer conditions arrival parameter endpoint).2 := by
  cases endpoint with
  | insertIdentity =>
      simp only [answer, reading, insertIdentity]
      split
      · exact .unchanged _
      · split
        · exact .unchanged _
        · exact .appended _ _ rfl
  | inclusionProof =>
      simp only [answer, reading]
      split <;> exact .unchanged _
  | confirm =>
      simp only [answer, reading, confirm, confirmSubmitted]
      split
      · exact .unchanged _
      · split
        · exact .unchanged _
        case h_2 admitted =>
          split
          · exact .unchanged _
          · exact .confirmed _ _ _ admitted rfl
  | _ => exact .unchanged _

/-- What holds of a service, and still holds when a request is answered or counted, holds after the request. -/
theorem handle_keeps (holds : Service → Prop) {request : Request} (now : holds service)
    (counts : ∀ next method path status, holds next → holds (next.counted method path status))
    (answers : ∀ route parameter endpoint next, request.Reaches route parameter →
      route.endpoint = endpoint → service.Leaves conditions request.arrival endpoint next →
        holds next) :
    holds (service.handle conditions request).2 := by
  simp only [handle, serve]
  split
  · exact now
  · simp only [answerRouted]
    split
    case h_1 route parameter reaches =>
      have answered := answers route parameter route.endpoint _ reaches rfl
        (service.answer_leaves conditions request.arrival parameter route.endpoint)
      split
      case h_1 crashed => rwa [crashed] at answered
      case h_2 response next responded =>
        rw [responded] at answered
        exact counts _ _ _ _ answered
    case h_2 => exact counts _ _ _ _ now
    case h_3 => exact counts _ _ _ _ now

theorem visited_keeps (holds : Service → Prop) {visits : List Visit} (now : holds service)
    (keeps : ∀ service, holds service → ∀ visit ∈ visits,
      holds (service.handle visit.conditions visit.request).2) :
    holds (service.visited visits) := by
  induction visits generalizing service with
  | nil => exact now
  | cons visit rest inductionHypothesis =>
      rw [visited_cons]
      refine inductionHypothesis (keeps service now visit List.mem_cons_self) ?_
      exact fun next held later member => keeps next held later (List.mem_cons_of_mem visit member)

/-! ## Health -/

theorem Healthy.counted (healthy : service.Healthy) (method path : String) (status : Nat) :
    (service.counted method path status).Healthy :=
  ⟨healthy.declared, ⟨healthy.sound.tables, healthy.sound.knows⟩, healthy.universal, healthy.entered,
    healthy.runs⟩

theorem Healthy.handle (healthy : service.Healthy) (calm : conditions.Healthy) (request : Request) :
    (service.handle conditions request).2.Healthy := by
  apply handle_keeps Healthy healthy fun _ method path status held => held.counted method path status
  intro _ _ _ _ _ _ leaves
  cases leaves with
  | unchanged => exact healthy
  | appended commitment deployment appends =>
      exact appends ▸ (append_decides healthy calm commitment).2.1
  | confirmed root minedAt deployment _ confirms =>
      exact confirms ▸ (confirm_decides healthy calm root minedAt).2.1

theorem Healthy.visited (healthy : service.Healthy) {visits : List Visit}
    (calm : ∀ visit ∈ visits, visit.conditions.Healthy) : (service.visited visits).Healthy :=
  visited_keeps Healthy healthy fun _ held visit member => held.handle (calm visit member) visit.request

/-! ## Settings -/

theorem ofSettings?_fresh {settings : Settings} {documentation : Documentation}
    (described : ofSettings? settings documentation = some service) :
    service.setup.schema = .declared ∧ service.deployment = {} ∧ service.timings = [] ∧
      service.miningToken = settings.miningToken := by
  rw [ofSettings?] at described
  split at described
  case h_1 =>
    split at described
    · cases described
    · cases described
      exact ⟨rfl, rfl, rfl, rfl⟩
  case h_2 => cases described

/-! ## Timings -/

/-- The counted requests are the ones whose time was taken. -/
def Timed (service : Service) : Prop :=
  service.timings =
    service.deployment.counters.requests.map fun label => { method := label.method, path := label.path }

theorem Timed.counted (timed : service.Timed) (method path : String) (status : Nat) :
    (service.counted method path status).Timed :=
  congrArg _ timed

theorem Timed.handle (timed : service.Timed) (request : Request) :
    (service.handle conditions request).2.Timed := by
  apply handle_keeps Timed timed fun _ method path status held => held.counted method path status
  intro _ _ _ _ _ _ leaves
  cases leaves with
  | unchanged => exact timed
  | appended commitment deployment appends =>
      have requests := service.deployment.append_requests service.setup conditions appenderName commitment
      rw [appends] at requests
      exact timed.trans (congrArg _ requests.symm)
  | confirmed root minedAt deployment _ confirms =>
      have requests := service.deployment.confirm_requests service.setup conditions [] root minedAt
      rw [confirms] at requests
      exact timed.trans (congrArg _ requests.symm)

/-! ## The start -/

theorem visited_timed {settings : Settings} {documentation : Documentation}
    (described : ofSettings? settings documentation = some service) (opening : Conditions)
    (visits : List Visit) : ((service.start opening).visited visits).Timed := by
  obtain ⟨_, fresh, untimed, _⟩ := ofSettings?_fresh described
  have counters : (service.start opening).deployment.counters = service.deployment.counters := rfl
  have timings : (service.start opening).timings = service.timings := rfl
  have started : (service.start opening).Timed := by
    rw [Timed, counters, timings, fresh, untimed]
    rfl
  exact visited_keeps Timed started fun _ timed visit _ => timed.handle visit.request

/-! ## Answers -/

section Replies

variable {request : Request} {route : Route} {parameter : List Char} {next : Service}
  (reaches : request.Reaches route parameter)

include reaches

theorem handle_of_reaches :
    service.handle conditions request =
      (((service.answerRouted conditions request.arrival).1.seen request.arrival.method),
        (service.answerRouted conditions request.arrival).2) := by
  have direct : Preflight.ofArrival? request.arrival = none :=
    if_neg (Route.not_options_of_lookup reaches)
  rw [handle, serve, direct]

theorem handle_of_crash
    (answered : service.answer conditions request.arrival parameter route.endpoint = (.crash, next)) :
    service.handle conditions request = (crashed.seen request.arrival.method, next) := by
  rw [handle_of_reaches reaches, answerRouted]
  rw [Request.Reaches] at reaches
  simp only [reaches, answered]

theorem handle_of_response {response : Response}
    (answered : service.answer conditions request.arrival parameter route.endpoint =
      (.response response, next)) :
    service.handle conditions request =
      (response.seen request.arrival.method,
        next.counted request.arrival.method (route.label request.arrival.target) response.status) := by
  rw [handle_of_reaches reaches, answerRouted]
  rw [Request.Reaches] at reaches
  simp only [reaches, answered]

end Replies

end Service

end Http

end CommitmentLog
