import CommitmentLog.Proofs.Http.Service

/-!
# Confirmations that are not admitted

A request to confirm a root is admitted only with the token that is configured, and not at all if none is.
One that is not admitted might as well not have been made: its answer can be told from the configuration and
the request alone, and nothing that comes after it differs, except that it was counted as a request.  Nothing
else the service does makes a checkpoint mined.
-/

set_option autoImplicit false

namespace CommitmentLog

/-! ## The count of requests -/

namespace Counters

variable {counters : Counters}

def withoutRequests (counters : Counters) : Counters :=
  { counters with requests := [] }

theorem afterAppend_withoutRequests {α : Type} (result : Except Failure α) :
    counters.withoutRequests.afterAppend result = (counters.afterAppend result).withoutRequests := by
  cases result with
  | ok value => rfl
  | error failure => cases failure <;> rfl

theorem afterConfirmation_withoutRequests (counted : Bool) :
    counters.withoutRequests.afterConfirmation counted =
      (counters.afterConfirmation counted).withoutRequests := by
  cases counted <;> rfl

end Counters

def Tables.AllPending (tables : Tables) : Prop :=
  ∀ checkpoint ∈ tables.checkpoints, checkpoint.status = .pending

theorem Tables.allPending_empty : ({} : Tables).AllPending := by
  simp [Tables.AllPending]

namespace Deployment

def withoutRequests (deployment : Deployment) : Deployment :=
  { deployment with counters := deployment.counters.withoutRequests }

variable {deployment : Deployment} {setup : Setup} {conditions : Conditions}

theorem append_withoutRequests (name : String) (commitment : Bytes) :
    deployment.withoutRequests.append setup conditions name commitment =
      ((deployment.append setup conditions name commitment).1,
        (deployment.append setup conditions name commitment).2.withoutRequests) := by
  simp only [append, withoutRequests, Counters.afterAppend_withoutRequests]
  rfl

theorem confirm_withoutRequests (script : List Confirmation.Interruption) (root : Bytes)
    (minedAt : Timestamp) :
    deployment.withoutRequests.confirm setup conditions script root minedAt =
      ((deployment.confirm setup conditions script root minedAt).1,
        (deployment.confirm setup conditions script root minedAt).2.withoutRequests) := by
  simp only [confirm, withoutRequests, Counters.afterConfirmation_withoutRequests]

/-! ## Pending checkpoints -/

theorem append_allPending (name : String) (commitment : Bytes)
    (pending : deployment.tables.AllPending) :
    (deployment.append setup conditions name commitment).2.tables.AllPending := by
  rw [append]
  rcases Appender.append_cases setup conditions deployment.clock deployment.tables
      (deployment.appender name) commitment with
    ⟨_, _, course⟩ | ⟨_, _, course⟩ | ⟨_, _, _, _, _, course⟩ |
      ⟨_, _, appended, _, committed, course⟩
  · rwa [course]
  · rwa [course]
  · rwa [course]
  -- The new row is pending, and the others are the ones from before.
  · have stores := Setup.transaction_ok committed
    obtain ⟨now, _, recorded⟩ := stores.checkpoint
    rw [course, stores.tables]
    intro checkpoint member
    rcases Store.mem_place.mp member with rfl | old
    · rw [recorded]
    · exact pending checkpoint old

end Deployment

namespace Http

/-! ## Admission -/

/-- A request carries the token that is configured.  No request does if none is configured. -/
def Request.Admitted (configured : Option String) (request : Request) : Prop :=
  ∃ token, configured = some token ∧ token ≠ "" ∧
    HeaderField.value? request.arrival.headers tokenHeader = some token

def Request.Confirms (request : Request) : Prop :=
  ∃ route parameter, request.Reaches route parameter ∧ route.endpoint = .confirm

theorem tokenRefusal?_eq_none_iff (configured : Option String) (request : Request) :
    tokenRefusal? configured request.arrival.headers = none ↔ request.Admitted configured := by
  rw [tokenRefusal?, Request.Admitted]
  cases configured with
  | none => simp
  | some token =>
      by_cases disabled : token = ""
      · simp [disabled]
      · cases given : HeaderField.value? request.arrival.headers tokenHeader with
        | none => simp [disabled]
        | some value =>
            by_cases right : value = token
            · simp [right, disabled]
            · by_cases missing : value = ""
              · simp [missing, disabled]
              · simp [disabled, missing, right]

def turnedAway (configured : Option String) (request : Request) : Response :=
  match request.arrival.submission?, tokenRefusal? configured request.arrival.headers with
  | .error (.response response), _ => response
  | .ok _, some refusal => refusal
  | _, _ => Service.crashed

namespace Service

def withoutRequests (service : Service) : Service :=
  { service with deployment := service.deployment.withoutRequests, timings := [] }

variable {service first second : Service} {conditions : Conditions} {request : Request}

/-! ## Nothing looks at the count of requests -/

theorem counted_withoutRequests (service : Service) (method path : String) (status : Nat) :
    (service.counted method path status).withoutRequests = service.withoutRequests :=
  rfl

theorem tables_of_withoutRequests (same : first.withoutRequests = second.withoutRequests) :
    first.deployment.tables = second.deployment.tables :=
  congrArg (fun service => service.deployment.tables) same

theorem reading_withoutRequests (arrival : Arrival) {act other : Submission → Reply × Service}
    (same : ∀ submission,
      act submission = ((other submission).1, (other submission).2.withoutRequests)) :
    service.withoutRequests.reading arrival act =
      ((service.reading arrival other).1, (service.reading arrival other).2.withoutRequests) := by
  rw [reading, reading]
  split
  · rfl
  · exact same _

theorem confirmSubmitted_withoutRequests (conditions : Conditions) (submission : Submission) :
    service.withoutRequests.confirmSubmitted conditions submission =
      ((service.confirmSubmitted conditions submission).1,
        (service.confirmSubmitted conditions submission).2.withoutRequests) := by
  rw [confirmSubmitted, confirmSubmitted]
  split
  · rfl
  · simp only [withoutRequests, Deployment.confirm_withoutRequests]

theorem answer_withoutRequests (conditions : Conditions) (arrival : Arrival) (parameter : List Char)
    (endpoint : Endpoint) :
    service.withoutRequests.answer conditions arrival parameter endpoint =
      ((service.answer conditions arrival parameter endpoint).1,
        (service.answer conditions arrival parameter endpoint).2.withoutRequests) := by
  cases endpoint with
  | insertIdentity =>
      apply reading_withoutRequests
      intro submission
      rw [insertIdentity, insertIdentity]
      split
      · rfl
      · simp only [withoutRequests, Deployment.append_withoutRequests]
  | inclusionProof => exact reading_withoutRequests arrival fun submission => rfl
  | confirm =>
      apply reading_withoutRequests
      intro submission
      have token : service.withoutRequests.miningToken = service.miningToken := rfl
      rw [confirm, confirm, token]
      split
      · rfl
      · exact confirmSubmitted_withoutRequests conditions submission
  | _ => rfl

theorem handle_withoutRequests (service : Service) (conditions : Conditions) (request : Request) :
    let counted := service.handle conditions request
    let uncounted := service.withoutRequests.handle conditions request
    uncounted.1 = counted.1 ∧ uncounted.2.withoutRequests = counted.2.withoutRequests := by
  intro counted uncounted
  simp only [counted, uncounted, handle, serve]
  split
  · exact ⟨rfl, rfl⟩
  · simp only [answerRouted]
    split
    case h_1 route parameter found =>
      rw [answer_withoutRequests]
      cases service.answer conditions request.arrival parameter route.endpoint with
      | mk reply next => cases reply <;> exact ⟨rfl, rfl⟩
    · exact ⟨rfl, rfl⟩
    · exact ⟨rfl, rfl⟩

theorem handle_congr (conditions : Conditions) (request : Request)
    (same : first.withoutRequests = second.withoutRequests) :
    (first.handle conditions request).1 = (second.handle conditions request).1 ∧
      (first.handle conditions request).2.withoutRequests =
        (second.handle conditions request).2.withoutRequests := by
  obtain ⟨firstResponse, firstNext⟩ := handle_withoutRequests first conditions request
  obtain ⟨secondResponse, secondNext⟩ := handle_withoutRequests second conditions request
  rw [same] at firstResponse firstNext
  exact ⟨firstResponse.symm.trans secondResponse, firstNext.symm.trans secondNext⟩

/-! ## The configuration stays -/

theorem handle_miningToken (service : Service) (conditions : Conditions) (request : Request) :
    (service.handle conditions request).2.miningToken = service.miningToken := by
  apply handle_keeps (fun next => next.miningToken = service.miningToken) rfl fun _ _ _ _ kept => kept
  intro _ _ _ _ _ _ leaves
  cases leaves <;> rfl

/-! ## Confirmations that are not admitted -/

/-- A confirmation that is not admitted is turned away, and leaves nothing behind but the count. -/
theorem handle_of_unadmitted (conditions : Conditions) (confirms : request.Confirms)
    (unadmitted : ¬request.Admitted service.miningToken) :
    (service.handle conditions request).1 = turnedAway service.miningToken request ∧
      (service.handle conditions request).2.withoutRequests = service.withoutRequests := by
  obtain ⟨route, parameter, reaches, confirming⟩ := confirms
  have whole : request.arrival.method ≠ "HEAD" := by
    intro head
    rw [Request.Reaches, head] at reaches
    have page := Route.endpoint_of_isPage route (Route.takes_of_lookup reaches).1
      (Route.isPage_of_head reaches)
    rw [confirming] at page
    exact absurd page (by decide)
  have refused : (tokenRefusal? service.miningToken request.arrival.headers).isSome := by
    rw [Option.isSome_iff_ne_none]
    intro none
    exact unadmitted ((tokenRefusal?_eq_none_iff _ _).mp none)
  obtain ⟨refusal, refused⟩ := Option.isSome_iff_exists.mp refused
  cases read : request.arrival.submission? with
  | ok submission =>
      have answered : service.answer conditions request.arrival parameter route.endpoint =
          (.response refusal, service) := by
        rw [confirming, answer, reading, read]
        simp only [confirm, refused]
      rw [handle_of_response reaches answered, Response.seen_of_not_head whole]
      exact ⟨by simp only [turnedAway, read, refused], counted_withoutRequests ..⟩
  | error reply =>
      have answered : service.answer conditions request.arrival parameter route.endpoint =
          (reply, service) := by
        rw [confirming, answer, reading, read]
      cases reply with
      | response response =>
          rw [handle_of_response reaches answered, Response.seen_of_not_head whole]
          exact ⟨by simp only [turnedAway, read], counted_withoutRequests ..⟩
      | crash =>
          rw [handle_of_crash reaches answered, Response.seen_of_not_head whole]
          exact ⟨by simp only [turnedAway, read], rfl⟩

/-! ## Leaving them out -/

def responses (service : Service) : List Visit → List Response
  | [] => []
  | visit :: rest =>
      (service.handle visit.conditions visit.request).1 ::
        (service.handle visit.conditions visit.request).2.responses rest

structure Planned where
  visit : Visit
  omitted : Bool

def planned (plan : List Planned) : List Visit :=
  plan.map (·.visit)

def remaining (plan : List Planned) : List Visit :=
  planned (plan.filter fun entry => !entry.omitted)

/-- The responses to a plan that leaves nothing out, each with the visit that it answers. -/
def responded (service : Service) (plan : List Planned) : List (Planned × Response) :=
  plan.zip (service.responses (planned plan))

def OmitsUnadmitted (configured : Option String) (plan : List Planned) : Prop :=
  ∀ entry ∈ plan, entry.omitted = true →
    entry.visit.request.Confirms ∧ ¬entry.visit.request.Admitted configured

theorem responded_cons (service : Service) (entry : Planned) (rest : List Planned) :
    service.responded (entry :: rest) =
      (entry, (service.handle entry.visit.conditions entry.visit.request).1) ::
        (service.handle entry.visit.conditions entry.visit.request).2.responded rest := by
  rw [responded, planned, List.map_cons, responses, List.zip_cons_cons]
  rfl

theorem responses_remaining (plan : List Planned) (omits : OmitsUnadmitted first.miningToken plan)
    (same : first.withoutRequests = second.withoutRequests) :
    ((first.responded plan).filter fun entry => !entry.1.omitted).map (·.2) =
        second.responses (remaining plan) ∧
      (first.visited (planned plan)).withoutRequests =
        (second.visited (remaining plan)).withoutRequests := by
  -- A visit that is left out moves only the first service on, so the two need not be the same to start with.
  induction plan generalizing first second with
  | nil => exact ⟨rfl, same⟩
  | cons entry rest inductionHypothesis =>
      obtain ⟨visit, omitted⟩ := entry
      have later : OmitsUnadmitted (first.handle visit.conditions visit.request).2.miningToken rest := by
        rw [handle_miningToken]
        exact fun other member => omits other (List.mem_cons_of_mem _ member)
      rw [responded_cons, planned, List.map_cons, visited_cons]
      cases omitted with
      | true =>
          obtain ⟨confirms, unadmitted⟩ := omits ⟨visit, true⟩ (by simp) rfl
          obtain ⟨_, unseen⟩ := handle_of_unadmitted visit.conditions confirms unadmitted
          have rests : remaining (⟨visit, true⟩ :: rest) = remaining rest := rfl
          rw [rests, List.filter_cons_of_neg (by simp)]
          exact inductionHypothesis later (unseen.trans same)
      | false =>
          obtain ⟨response, next⟩ := handle_congr visit.conditions visit.request same
          obtain ⟨responses, visited⟩ := inductionHypothesis later next
          have rests : remaining (⟨visit, false⟩ :: rest) = visit :: remaining rest := rfl
          rw [rests, List.filter_cons_of_pos (by simp), visited_cons, Service.responses, List.map_cons,
            responses, response]
          exact ⟨rfl, visited⟩

theorem responded_omitted (plan : List Planned) (omits : OmitsUnadmitted service.miningToken plan) :
    ∀ entry ∈ service.responded plan, entry.1.omitted = true →
      entry.2 = turnedAway service.miningToken entry.1.visit.request := by
  induction plan generalizing service with
  | nil => simp [responded]
  | cons first rest inductionHypothesis =>
      intro entry member omitted
      rw [responded_cons] at member
      rcases List.mem_cons.mp member with rfl | member
      · obtain ⟨confirms, unadmitted⟩ := omits first (by simp) omitted
        exact (handle_of_unadmitted _ confirms unadmitted).1
      · have kept := service.handle_miningToken first.visit.conditions first.visit.request
        have later : OmitsUnadmitted
            (service.handle first.visit.conditions first.visit.request).2.miningToken rest := by
          rw [kept]
          exact fun other member => omits other (List.mem_cons_of_mem _ member)
        have answered := inductionHypothesis later entry member omitted
        rwa [kept] at answered

/-! ## Nothing else makes a checkpoint mined -/

theorem handle_allPending (conditions : Conditions)
    (guarded : request.Confirms → ¬request.Admitted service.miningToken)
    (pending : service.deployment.tables.AllPending) :
    (service.handle conditions request).2.deployment.tables.AllPending := by
  apply handle_keeps (·.deployment.tables.AllPending) pending fun _ _ _ _ kept => kept
  intro route parameter endpoint next reaches named leaves
  cases leaves with
  | unchanged => exact pending
  | appended commitment deployment appends =>
      exact appends ▸ Deployment.append_allPending appenderName commitment pending
  | confirmed root minedAt deployment admitted =>
      exact absurd ((tokenRefusal?_eq_none_iff _ _).mp admitted)
        (guarded ⟨route, parameter, reaches, named⟩)

theorem visited_allPending {visits : List Visit}
    (guarded : ∀ visit ∈ visits, visit.request.Confirms →
      ¬visit.request.Admitted service.miningToken)
    (pending : service.deployment.tables.AllPending) :
    (service.visited visits).deployment.tables.AllPending := by
  let holds (next : Service) : Prop :=
    next.miningToken = service.miningToken ∧ next.deployment.tables.AllPending
  have kept : holds (service.visited visits) := by
    apply visited_keeps holds ⟨rfl, pending⟩
    rintro next ⟨token, held⟩ visit member
    refine ⟨(next.handle_miningToken visit.conditions visit.request).trans token, ?_⟩
    exact handle_allPending visit.conditions (token ▸ guarded visit member) held
  exact kept.2

/-- Whatever a service has been asked since it started on an empty store, confirmations that are not admitted
might as well be left out: all others are answered alike, the tables are the same, and so are all counts but
the one of requests.  Those left out are turned away by the configuration and their own content alone.  As
long as none is admitted, no checkpoint is mined. -/
theorem unadmitted_confirmations_invisible (settings : Settings) (documentation : Documentation)
    (service : Service) (described : ofSettings? settings documentation = some service) (opening : Conditions) (plan : List Planned)
    (omits : OmitsUnadmitted settings.miningToken plan) :
    let started := service.start opening
    let whole := (started.visited (planned plan)).deployment
    let reduced := (started.visited (remaining plan)).deployment
    ((started.responded plan).filter fun entry => !entry.1.omitted).map (·.2) =
        started.responses (remaining plan) ∧
      whole.tables = reduced.tables ∧
      whole.counters.withoutRequests = reduced.counters.withoutRequests ∧
      (∀ entry ∈ started.responded plan, entry.1.omitted = true →
        entry.2 = turnedAway settings.miningToken entry.1.visit.request) ∧
      ∀ visits : List Visit,
        (∀ visit ∈ visits, visit.request.Confirms → ¬visit.request.Admitted settings.miningToken) →
          ∀ checkpoint ∈ (started.visited visits).deployment.tables.checkpoints,
            checkpoint.status = .pending := by
  intro started whole reduced
  obtain ⟨_, fresh, _, configured⟩ := ofSettings?_fresh described
  have kept : started.miningToken = service.miningToken := rfl
  have token := kept.trans configured
  have empty : started.deployment.tables = {} := congrArg Deployment.tables fresh
  rw [← token] at omits ⊢
  obtain ⟨responses, visited⟩ := responses_remaining plan omits rfl
  refine ⟨responses, tables_of_withoutRequests visited,
    congrArg (fun service => service.deployment.counters) visited, responded_omitted plan omits, ?_⟩
  intro visits guarded
  exact visited_allPending guarded (by rw [empty]; exact Tables.allPending_empty)

/-! ## Guesses -/

def guarded : Settings :=
  { treeDepth := 1, miningToken := some "secret" }

def guardedService : Service :=
  (ofSettings? guarded).get (by decide +kernel)

def inserting : Visit :=
  { conditions := {}
    request :=
      { method := "POST", target := "/insertIdentity"
        body := .value (.object
          [(some Submitted.commitmentField, .string (String.ofList (List.replicate 64 '7')))]) } }

def guardedRoot : String :=
  "f77114ece59e22907c2e9ee9cd7408c2ed48b5c92abae5218b9f36af40f7cce1"

def confirming (token : String) : Visit :=
  { conditions := {}
    request :=
      { method := "POST", target := "/mining/confirm"
        headers := [{ name := "x-mining-token", value := token }]
        body := .value (.object
          [(some Submitted.rootField, .string guardedRoot),
           (some Submitted.minedAtField, .string "2026-01-02T00:00:00Z")]) } }

theorem guess_confirms : (confirming "guess").request.Confirms :=
  ⟨{ endpoint := .confirm, method := "POST", stem := "/mining/confirm" }, [],
    by unfold Request.Reaches; decide +kernel, rfl⟩

theorem guess_unadmitted : ¬(confirming "guess").request.Admitted guarded.miningToken := by
  rw [← tokenRefusal?_eq_none_iff]
  decide +kernel

theorem inserting_not_confirms : ¬inserting.request.Confirms := by
  rintro ⟨route, parameter, reaches, confirms⟩
  have looked : Route.lookup inserting.request.arrival.method inserting.request.arrival.target.path =
      .found { endpoint := .insertIdentity, method := "POST", stem := "/insertIdentity" } [] := by
    decide +kernel
  rw [Request.Reaches, looked] at reaches
  cases reaches
  cases confirms

def guessing : List Planned :=
  [⟨inserting, false⟩, ⟨confirming "guess", true⟩, ⟨confirming "secret", false⟩, ⟨confirming "guess", true⟩]

theorem guarded_confirms :
    let started := guardedService.start {}
    (started.visited [inserting, confirming "secret"]).deployment.counters.mined = 1 ∧
      (started.responses (planned guessing)).map (·.status) = [200, 403, 200, 403] := by
  decide +kernel

/-- The guesses leave no trace, and the confirmation is none of them. -/
theorem unadmitted_confirmations_invisible_guesses :
    let started := guardedService.start {}
    let whole := (started.visited (planned guessing)).deployment
    let reduced := (started.visited [inserting, confirming "secret"]).deployment
    ((started.responded guessing).filter fun entry => !entry.1.omitted).map (·.2) =
        started.responses [inserting, confirming "secret"] ∧
      whole.tables = reduced.tables ∧
      whole.counters.withoutRequests = reduced.counters.withoutRequests ∧
      reduced.counters.mined = 1 ∧
      (started.responses (planned guessing)).map (·.status) = [200, 403, 200, 403] ∧
      ∀ checkpoint ∈ (started.visited [inserting, confirming "guess"]).deployment.tables.checkpoints,
        checkpoint.status = .pending := by
  have described : ofSettings? guarded = some guardedService := (Option.some_get _).symm
  have guesses : OmitsUnadmitted guarded.miningToken guessing := by
    simp only [guessing, OmitsUnadmitted, List.forall_mem_cons, List.not_mem_nil, false_implies,
      implies_true, Bool.false_eq_true, forall_const, true_and, and_true]
    exact ⟨⟨guess_confirms, guess_unadmitted⟩, guess_confirms, guess_unadmitted⟩
  have rests : remaining guessing = [inserting, confirming "secret"] := rfl
  have invisible :=
    unadmitted_confirmations_invisible guarded {} guardedService described {} guessing guesses
  dsimp only at invisible ⊢
  rw [rests] at invisible
  obtain ⟨responses, tables, counters, _, pending⟩ := invisible
  obtain ⟨mined, statuses⟩ := guarded_confirms
  refine ⟨responses, tables, counters, mined, statuses, pending [inserting, confirming "guess"] ?_⟩
  simp only [List.forall_mem_cons, List.not_mem_nil, false_implies, implies_true, and_true]
  exact ⟨fun reached => absurd reached inserting_not_confirms, fun _ => guess_unadmitted⟩

end Service

end Http

end CommitmentLog
