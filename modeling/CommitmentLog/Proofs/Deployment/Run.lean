import CommitmentLog.Deployment
import CommitmentLog.Proofs.Appender.Audit
import CommitmentLog.Proofs.Appender.Coherence
import CommitmentLog.Proofs.Confirmation.Keeps

/-!
# Runs of a deployment

A run starts with empty tables and takes one event after the other.  Each event has conditions and a timeout
of its own, so every operation may fail at any of its places.  The run is sound as long as the hasher makes
no roots up and nobody changes rows past the log: the tables are sound after every event, and whatever an
appender keeps is the tree over a prefix of the ledger.  Both halves are needed together.  The tables stay
consistent because a kept tree is never wrong, and a kept tree stays right because the ledger only grows.
-/

set_option autoImplicit false

namespace CommitmentLog

open Store

/-- One operation, with the conditions it meets and the timeout of whoever asks for it. -/
structure Event where
  timeout : Binary
  conditions : Conditions
  operation : Operation

/-- During a confirmation other writers are fair; no other operation lets them in. -/
def Operation.Fair : Operation → Prop
  | .confirm script _ _ => ∀ interruption ∈ script, interruption.Fair
  | _ => True

/-- The hasher makes no roots up, and nobody changes rows past the log. -/
structure Event.Fair (event : Event) : Prop where
  honest : event.conditions.strikes .hasherStuck = false
  operation : event.operation.Fair

instance : DecidablePred Operation.Fair
  | .confirm script _ _ => inferInstanceAs (Decidable (∀ interruption ∈ script, interruption.Fair))
  | .append _ _ | .appendAll _ _ | .recover _ | .audit _ | .inclusionProof _ _ | .resetHalt _
  | .hold _ | .release _ | .restart _ | .withStatus _ => inferInstanceAs (Decidable True)

instance : DecidablePred Event.Fair := fun _ =>
  decidable_of_iff (_ ∧ _) ⟨fun ⟨honest, fair⟩ => ⟨honest, fair⟩, fun ⟨honest, fair⟩ => ⟨honest, fair⟩⟩

namespace Deployment

def after (setup : Setup) (deployment : Deployment) (event : Event) : Deployment :=
  (deployment.step { setup with timeout := event.timeout } event.conditions event.operation).2

def run (setup : Setup) (events : List Event) : Deployment :=
  events.foldl (after setup) {}

/-- The tables are sound, and every appender keeps the tree over a prefix of the ledger or none. -/
structure Sound (shape : Tree.Shape Bytes) (deployment : Deployment) : Prop where
  tables : deployment.tables.Sound shape
  knows : ∀ name, (deployment.appender name).Knows shape deployment.tables.commitments

variable {setup : Setup} {conditions : Conditions} {shape : Tree.Shape Bytes}
  {deployment : Deployment}

/-! ## Appenders by name -/

theorem appender_setAppender (name other : String) (appender : Appender) :
    (deployment.setAppender name appender).appender other =
      if other = name then appender else deployment.appender other := by
  by_cases same : other = name
  · simp [Deployment.appender, setAppender, same]
  · have search : (deployment.appenders.filter fun entry => entry.1 ≠ name).find?
        (fun entry => entry.1 = other) = deployment.appenders.find? fun entry => entry.1 = other := by
      rw [List.find?_filter]
      congr 1
      funext entry
      by_cases here : entry.1 = other
      · simp [here, same]
      · simp [here]
    rw [Deployment.appender, setAppender, List.find?_cons_of_neg (by simpa using Ne.symm same),
      search, if_neg same]
    rfl

theorem appender_setAppender_self (name : String) (appender : Appender) :
    (deployment.setAppender name appender).appender name = appender :=
  (appender_setAppender name name appender).trans (if_pos rfl)

theorem appender_append (setup : Setup) (conditions : Conditions) (deployment : Deployment)
    (name : String) (commitment : Bytes) :
    (deployment.append setup conditions name commitment).2.appender name =
      ((deployment.appender name).append setup conditions deployment.clock deployment.tables
        commitment).appender :=
  appender_setAppender_self name _

theorem Sound.grow (sound : deployment.Sound shape) (name : String) (appender : Appender)
    (tables : Tables) (counters : Counters) (clock : Binary) (tablesSound : tables.Sound shape)
    (longer : deployment.tables.commitments <+: tables.commitments)
    (knows : appender.Knows shape tables.commitments) :
    ({ deployment.setAppender name appender with tables, counters, clock } : Deployment).Sound
      shape := by
  refine ⟨tablesSound, ?_⟩
  intro other
  change ((deployment.setAppender name appender).appender other).Knows shape tables.commitments
  rw [appender_setAppender]
  split
  · exact knows
  · exact (sound.knows other).mono longer

theorem Sound.setAppender (sound : deployment.Sound shape) (name : String) (appender : Appender)
    (knows : appender.Knows shape deployment.tables.commitments) :
    (deployment.setAppender name appender).Sound shape :=
  sound.grow name appender deployment.tables deployment.counters deployment.clock sound.tables
    (List.prefix_refl _) knows

/-! ## Steps -/

theorem append_sound (declared : setup.schema = .declared)
    (honest : conditions.strikes .hasherStuck = false) (name : String) (commitment : Bytes)
    (sound : deployment.Sound setup.shape) :
    (deployment.append setup conditions name commitment).2.Sound setup.shape := by
  obtain ⟨tablesSound, longer, knows⟩ := Appender.append_sound declared honest deployment.clock
    commitment sound.tables (sound.knows name)
  exact sound.grow name _ _ _ _ tablesSound longer knows

theorem appendAll_sound (declared : setup.schema = .declared) (name : String)
    (commitments : List Bytes) (honest : conditions.strikes .hasherStuck = false)
    (last : Option Checkpoint) (sound : deployment.Sound setup.shape) :
    (appendAll setup name conditions last commitments deployment).2.Sound setup.shape := by
  induction commitments generalizing conditions last deployment with
  | nil => exact sound
  | cons commitment rest inductionHypothesis =>
      have grown := append_sound declared honest name commitment sound
      rw [appendAll]
      split
      case h_1 failure next stopped =>
        rw [stopped] at grown
        exact grown
      case h_2 checkpoint next appended =>
        rw [appended] at grown
        have later : (conditions.after writesPerAppend).strikes .hasherStuck = false := honest
        exact inductionHypothesis later (some checkpoint) grown

theorem sound_keptByTimed (shape : Tree.Shape Bytes) (root : Bytes) (identities : List Identity) :
    Confirmation.KeptByTimed .declared root fun tables =>
      tables.Sound shape ∧ tables.identities = identities := by
  intro tables changed selector status minedAt touched ⟨sound, same⟩ timed ran
  rw [Statement.run_setStatus root selector status minedAt sound.lawful] at ran
  cases ran
  exact ⟨sound.withStatusSet root selector status minedAt timed, same⟩

theorem confirm_sound (declared : setup.schema = .declared)
    (script : List Confirmation.Interruption) (fair : ∀ interruption ∈ script, interruption.Fair)
    (root : Bytes) (minedAt : Timestamp) (sound : deployment.Sound setup.shape) :
    (deployment.confirm setup conditions script root minedAt).2.Sound setup.shape := by
  obtain ⟨tablesSound, same⟩ := Confirmation.confirm_keeps conditions
    (sound_keptByTimed setup.shape root deployment.tables.identities) minedAt fair
    ⟨sound.tables, rfl⟩
  rw [← declared] at tablesSound same
  refine ⟨tablesSound, ?_⟩
  intro name
  apply (sound.knows name).mono
  rw [Tables.commitments, ← same]
  exact List.prefix_refl _

theorem step_sound (setup : Setup) (declared : setup.schema = .declared)
    (honest : conditions.strikes .hasherStuck = false) (operation : Operation)
    (fair : operation.Fair) (sound : deployment.Sound setup.shape) :
    (deployment.step setup conditions operation).2.Sound setup.shape := by
  cases operation with
  | append name commitment => exact append_sound declared honest name commitment sound
  | appendAll name commitments => exact appendAll_sound declared name commitments honest none sound
  | recover name => exact sound.setAppender name _ (sound.knows name).recover
  | audit name => exact sound.setAppender name _ (sound.knows name).audit
  | inclusionProof name commitment => exact sound
  | resetHalt name => exact sound.setAppender name _ (sound.knows name).resetHalt
  | hold name => exact sound.setAppender name _ (sound.knows name)
  | release name => exact sound.setAppender name _ (sound.knows name).release
  | restart name => exact sound.setAppender name _ (Appender.knows_of_forgotten rfl)
  | confirm script root minedAt => exact confirm_sound declared script fair root minedAt sound
  | withStatus status => exact sound

/-! ## Runs -/

theorem sound_empty (shape : Tree.Shape Bytes) : ({} : Deployment).Sound shape :=
  ⟨Tables.sound_empty shape, fun _ => Appender.knows_of_forgotten rfl⟩

theorem after_sound (declared : setup.schema = .declared) (event : Event) (fair : event.Fair)
    (sound : deployment.Sound setup.shape) : (after setup deployment event).Sound setup.shape :=
  step_sound { setup with timeout := event.timeout } declared fair.honest event.operation
    fair.operation sound

theorem foldl_after_sound (declared : setup.schema = .declared) (events : List Event)
    (fair : ∀ event ∈ events, event.Fair) (sound : deployment.Sound setup.shape) :
    (events.foldl (after setup) deployment).Sound setup.shape := by
  induction events generalizing deployment with
  | nil => exact sound
  | cons event rest inductionHypothesis =>
      have next := after_sound declared event (fair event (by simp)) sound
      exact inductionHypothesis (fun later member => fair later (List.mem_cons_of_mem event member))
        next

/-- Whatever events a run consists of, in whatever order, it leaves a sound deployment behind; since every
beginning of a run is a run, this holds after each of its events. -/
theorem run_sound (setup : Setup) (declared : setup.schema = .declared) (events : List Event)
    (fair : ∀ event ∈ events, event.Fair) : (run setup events).Sound setup.shape :=
  foldl_after_sound declared events fair (sound_empty setup.shape)

/-- Two appenders on a tree of two leaves.  The second one meets a failing commit, both fall behind each
other, a root is confirmed while another writer confirms it too, and the last append finds the tree full. -/
def rivals : List Event :=
  let calm (operation : Operation) : Event := { timeout := .ofInt 10, conditions := {}, operation }
  [calm (.append "first" [1]),
   { timeout := .ofInt 10, conditions := { faults := [.commit] }, operation := .append "second" [2] },
   calm (.append "second" [2]),
   calm (.confirm
     [{ afterCheck := .write .mined (some { year := 2026, month := 2, day := 1 }) }] [1, 0]
     (.ofCivil { year := 2026, month := 3, day := 1 })),
   calm (.append "first" [3]),
   calm (.restart "second"),
   calm (.audit "second")]

theorem run_sound_rivals :
    (∀ event ∈ rivals, event.Fair) ∧
      (run Appender.twoLeaves rivals).tables.commitments = [[1], [2]] ∧
      (run Appender.twoLeaves rivals).Sound Appender.twoLeaves.shape :=
  ⟨by decide, by decide +kernel, run_sound Appender.twoLeaves rfl rivals (by decide)⟩

end Deployment

end CommitmentLog
