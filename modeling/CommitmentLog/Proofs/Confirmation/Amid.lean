import CommitmentLog.Proofs.Confirmation.Alone
import CommitmentLog.Proofs.Confirmation.Keeps
import CommitmentLog.Proofs.Confirmation.Race

/-!
# Changes of status amid other writers

Other writers may come in at two points of every pass: after the check, and before the next reading.  A change
of status is followed here pass by pass, with what each pass has read and what it has written.  Whatever the
others do, a pass that writes confirms the checkpoint that is pending at that instant, and it is the last one.
A pass that finds no pending checkpoint to write has lost, and the next one reads the checkpoint again.
-/

set_option autoImplicit false

namespace CommitmentLog

open Store

def Tables.Pending (tables : Tables) (root : Bytes) : Prop :=
  ∃ checkpoint, tables.withRoot? root = some checkpoint ∧ checkpoint.status = .pending

namespace Confirmation

/-! ## Courses -/

/-- What becomes of the tables by other writers during one pass: after the check, and before the next reading.
Unlike an interruption, they may also put back a checkpoint that was gone. -/
structure Meanwhile where
  afterCheck : Tables → Tables := id
  beforeRead : Tables → Tables := id

structure Meanwhile.Lawful (meanwhile : Meanwhile) : Prop where
  afterCheck : ∀ tables : Tables, tables.Lawful → (meanwhile.afterCheck tables).Lawful
  beforeRead : ∀ tables : Tables, tables.Lawful → (meanwhile.beforeRead tables).Lawful

def Interruption.meanwhile (schema : Schema) (root : Bytes) (interruption : Interruption) : Meanwhile :=
  { afterCheck := fun tables => interruption.afterCheck.apply schema root tables
    beforeRead := fun tables => interruption.beforeRead.apply schema root tables }

/-- A conditional write: the tables at its instant, and the tables that it leaves. -/
structure Write where
  before : Tables
  after : Tables

/-- One pass: the tables it has read, what came of reading and checking them, and its conditional write if it
got that far. -/
structure Pass where
  read : Tables
  found : Except Failure (Checkpoint × Bool)
  write : Option Write := none

def Pass.effective (pass : Pass) : Bool :=
  pass.write.any fun write => write.after != write.before

structure Course where
  passes : List Pass
  outcome : Outcome

namespace Course

def ended (outcome : Outcome) : Course :=
  { passes := [], outcome }

def prepend (pass : Pass) (course : Course) : Course :=
  { course with passes := pass :: course.passes }

end Course

/-- The passes of `passes`, each with what it reads and writes. -/
def passesAmid (schema : Schema) (conditions : Conditions) (root : Bytes) (next : Status)
    (given : Option Civil) : Nat → (Tables → Tables) → List Meanwhile → Tables → Course
  | 0, _, _, tables => .ended (.error (.refused (.keepsChanging root)), tables)
  | remaining + 1, before, script, tables =>
      let read := before tables
      let meanwhile := script.headD {}
      let found := examine read root next given
      match found with
      | .error failure => (Course.ended (.error failure, read)).prepend { read, found }
      | .ok (checkpoint, due) =>
          let current := meanwhile.afterCheck read
          if !due then (Course.ended (.ok (checkpoint, false), current)).prepend { read, found }
          else if conditions.strikes .update then
            (Course.ended (.error (.refused .storageFailed), current)).prepend { read, found }
          else
            match settle schema current root checkpoint.status next given with
            | none =>
                (Course.ended (.error (.refused .storageFailed), current)).prepend { read, found }
            | some (after, touched) =>
                let pass : Pass := { read, found, write := some { before := current, after } }
                if touched = 1 then
                  let last := meanwhile.beforeRead after
                  let result := (Checkpoints.get last root).map fun checkpoint => (checkpoint, true)
                  (Course.ended (result, last)).prepend pass
                else
                  (passesAmid schema conditions root next given remaining meanwhile.beforeRead
                    script.tail after).prepend pass

def applyAmid (schema : Schema) (conditions : Conditions) (script : List Meanwhile) (root : Bytes)
    (next : Status) (given : Option Timestamp) (tables : Tables) : Course :=
  match given.mapM Checkpoints.universal with
  | .error failure => .ended (.error failure, tables)
  | .ok given => passesAmid schema conditions root next given 2 id script tables

def transacted (conditions : Conditions) (tables : Tables) : Outcome → Confirmed
  | (.error failure, _) => { result := .error failure, counted := false, tables }
  | (.ok (checkpoint, written), after) =>
      if conditions.strikes .commit then
        { result := .error (.refused .storageFailed), counted := false, tables }
      else if written && checkpoint.minedAt.isNone then
        { result := .error .timeGone, counted := true, tables := after }
      else { result := .ok checkpoint, counted := written, tables := after }

section Scripts

variable (schema : Schema) (conditions : Conditions) (root : Bytes)

theorem outcome_passesAmid (next : Status) (given : Option Civil) (remaining : Nat)
    (before : Interference) (script : List Interruption) (tables : Tables) :
    (passesAmid schema conditions root next given remaining
        (fun tables => before.apply schema root tables)
        (script.map (Interruption.meanwhile schema root)) tables).outcome =
      passes schema conditions root next given remaining before script tables := by
  induction remaining generalizing before script tables with
  | zero => rfl
  | succ remaining inductionHypothesis =>
      have first : (script.map (Interruption.meanwhile schema root)).headD {} =
          (script.headD {}).meanwhile schema root := by
        cases script <;> rfl
      rw [passesAmid, passes, first, ← List.map_tail]
      simp only [Interruption.meanwhile]
      cases examined : examine (before.apply schema root tables) root next given with
      | error failure => rfl
      | ok found =>
          obtain ⟨checkpoint, due⟩ := found
          simp only
          split
          case isTrue => rfl
          case isFalse =>
            split
            case isTrue => rfl
            case isFalse =>
              cases settled : settle schema ((script.headD {}).afterCheck.apply schema root
                  (before.apply schema root tables)) root checkpoint.status next given with
              | none => rfl
              | some change =>
                  simp only
                  split
                  case isTrue =>
                    cases Checkpoints.get ((script.headD {}).beforeRead.apply schema root change.1)
                      root <;> simp [Course.prepend, Course.ended, Except.map]
                  case isFalse => exact inductionHypothesis _ _ _

theorem outcome_applyAmid (next : Status) (given : Option Timestamp) (script : List Interruption)
    (tables : Tables) :
    (applyAmid schema conditions (script.map (Interruption.meanwhile schema root)) root next given
        tables).outcome =
      applyStatus schema conditions script root next given tables := by
  rw [applyAmid, applyStatus]
  cases given.mapM Checkpoints.universal with
  | error failure => rfl
  | ok civil => exact outcome_passesAmid schema conditions root next civil 2 .nothing script tables

theorem confirm_eq_transacted (script : List Interruption) (minedAt : Timestamp) (tables : Tables) :
    confirm schema conditions script root minedAt tables =
      transacted conditions tables
        (applyStatus schema conditions script root .mined (some minedAt) tables) := by
  rw [confirm]
  split
  case h_1 failure after outcome => rw [outcome, transacted]
  case h_2 checkpoint written after outcome => rw [outcome, transacted]

end Scripts

theorem Interruption.lawful_meanwhile (root : Bytes) (interruption : Interruption) :
    (interruption.meanwhile .declared root).Lawful := by
  have keeps := (lawful_keptUnder root (Civil.mk 1 1 1 0 0 0 0)).others
  exact ⟨fun tables => keeps tables _ trivial, fun tables => keeps tables _ trivial⟩

/-! ## The end of one pass -/

structure Pass.Allowed (root : Bytes) (pass : Pass) (checkpoint : Checkpoint) : Prop where
  recorded : pass.read.withRoot? root = some checkpoint
  pending : checkpoint.status = .pending
  found : pass.found = .ok (checkpoint, true)

/-- A pass may write, but when it comes to it the checkpoint is not pending any more, or not there. -/
def Pass.Lost (root : Bytes) (pass : Pass) : Prop :=
  (∃ checkpoint, pass.Allowed root checkpoint) ∧
    ∃ write, pass.write = some write ∧ ¬ write.before.Pending root

/-- What a conditional write does: it confirms the checkpoint that is pending at this instant, or there is none
and everything stays as it is. -/
inductive Write.Settles (root : Bytes) (given : Civil) (write : Write) : Prop where
  | confirmed (checkpoint : Checkpoint)
      (recorded : write.before.withRoot? root = some checkpoint)
      (pending : checkpoint.status = .pending)
      (after : write.after = write.before.replacing (checkpoint.confirmed given))
  | kept (gone : ¬ write.before.Pending root) (after : write.after = write.before)

/-- How a course may begin: with a pass that ends it without a write, with one that has won, or with one that
has lost, after which the passes that are left go on. -/
inductive Begins (root : Bytes) (next : Status) (given : Option Civil) (read : Tables)
    (meanwhile : Meanwhile) (rest : Tables → Course) : Course → Prop where
  | unwritten (pass : Pass) (outcome : Outcome) (reads : pass.read = read) (none : pass.write = none)
      (settled : outcome.1 ≠ .error (.refused (.keepsChanging root)))
      (unreported : ∀ checkpoint, outcome.1 ≠ .ok (checkpoint, true)) :
      Begins root next given read meanwhile rest ((Course.ended outcome).prepend pass)
  | won (pass : Pass) (write : Write) (checkpoint current : Checkpoint) (civil : Civil)
      (reads : pass.read = read) (mined : next = .mined) (time : given = some civil)
      (allowed : pass.Allowed root checkpoint) (written : pass.write = some write)
      (before : write.before = meanwhile.afterCheck read)
      (recorded : write.before.withRoot? root = some current) (pending : current.status = .pending)
      (after : write.after = write.before.replacing (current.confirmed civil)) :
      Begins root next given read meanwhile rest
        ((Course.ended ((Checkpoints.get (meanwhile.beforeRead write.after) root).map
          fun checkpoint => (checkpoint, true), meanwhile.beforeRead write.after)).prepend pass)
  | lost (pass : Pass) (write : Write) (checkpoint : Checkpoint) (civil : Civil)
      (reads : pass.read = read) (mined : next = .mined) (time : given = some civil)
      (allowed : pass.Allowed root checkpoint) (written : pass.write = some write)
      (before : write.before = meanwhile.afterCheck read)
      (gone : ¬ write.before.Pending root) (after : write.after = write.before) :
      Begins root next given read meanwhile rest ((rest (meanwhile.afterCheck read)).prepend pass)

variable {conditions : Conditions} {root : Bytes} {next : Status} {given : Option Civil}
  {tables : Tables} {script : List Meanwhile}

theorem settle_cases (lawful : tables.Lawful) (root : Bytes) (civil : Civil) :
    (∃ checkpoint, tables.withRoot? root = some checkpoint ∧ checkpoint.status = .pending ∧
      settle .declared tables root .pending .mined (some civil) =
        some (tables.replacing (checkpoint.confirmed civil), 1)) ∨
      ¬ tables.Pending root ∧
        settle .declared tables root .pending .mined (some civil) = some (tables, 0) := by
  cases search : tables.withRoot? root with
  | none =>
      right
      refine ⟨?_, settle_of_absent lawful search .pending civil⟩
      intro ⟨checkpoint, recorded, _⟩
      rw [search] at recorded
      cases recorded
  | some checkpoint =>
      by_cases pending : checkpoint.status = .pending
      · have settled := settle_of_status lawful search civil
        rw [pending] at settled
        exact Or.inl ⟨checkpoint, rfl, pending, settled⟩
      · right
        refine ⟨?_, settle_of_ne lawful search pending civil⟩
        intro ⟨other, recorded, waiting⟩
        rw [search] at recorded
        cases recorded
        exact pending waiting

theorem checkTransition_ne_keepsChanging (root : Bytes) (current : Status)
    (recorded : Option Timestamp) (next : Status) (given : Option Timestamp) (other : Bytes) :
    checkTransition root current recorded next given ≠ .error (.refused (.keepsChanging other)) := by
  unfold checkTransition
  split
  · split
    · split <;> simp
    · simp
  · split <;> simp
  · simp

theorem examine_ne_keepsChanging (tables : Tables) (root : Bytes) (next : Status)
    (given : Option Civil) (other : Bytes) :
    examine tables root next given ≠ .error (.refused (.keepsChanging other)) := by
  rw [examine, Checkpoints.get]
  cases tables.withRoot? root with
  | none => simp [bind, Except.bind]
  | some checkpoint =>
      have unchanging := checkTransition_ne_keepsChanging checkpoint.root checkpoint.status
        checkpoint.minedAt next (given.map Timestamp.ofCivil) other
      simp only [bind, Except.bind]
      split
      case h_1 failure failed =>
        rw [failed] at unchanging
        simpa using unchanging
      case h_2 => simp

theorem passesAmid_begins (conditions : Conditions) (root : Bytes) (next : Status)
    (given : Option Civil) (remaining : Nat) (before : Tables → Tables) (script : List Meanwhile)
    (tables : Tables) (lawful : ((script.headD {}).afterCheck (before tables)).Lawful) :
    Begins root next given (before tables) (script.headD {})
      (passesAmid .declared conditions root next given remaining (script.headD {}).beforeRead
        script.tail)
      (passesAmid .declared conditions root next given (remaining + 1) before script tables) := by
  rw [passesAmid]
  simp only
  cases examined : examine (before tables) root next given with
  | error failure =>
      refine .unwritten _ _ rfl rfl ?_ (by simp)
      rw [← examined]
      exact examine_ne_keepsChanging _ _ _ _ _
  | ok found =>
      obtain ⟨checkpoint, due⟩ := found
      cases due with
      | false => exact .unwritten _ _ rfl rfl (by simp) (by simp)
      | true =>
          obtain ⟨recorded, transition⟩ := examine_ok examined
          obtain ⟨pending, rfl, timed⟩ := due_of_checkTransition transition
          cases given with
          | none => cases timed
          | some civil =>
              by_cases struck : conditions.strikes .update
              · simp only [struck, if_true]
                exact .unwritten _ _ rfl rfl (by simp) (by simp)
              · simp only [struck, pending]
                rcases settle_cases lawful root civil with
                  ⟨current, there, waiting, settled⟩ | ⟨gone, settled⟩
                · simp only [settled]
                  exact .won _ (Write.mk _ _) checkpoint current civil rfl rfl rfl
                    ⟨recorded, pending, rfl⟩ rfl rfl there waiting rfl
                · simp only [settled]
                  exact .lost _ (Write.mk _ _) checkpoint civil rfl rfl rfl ⟨recorded, pending, rfl⟩ rfl
                    rfl gone rfl

/-! ## Whole courses -/

/-- The passes read and write the tables as the other writers of a script leave them. -/
def Course.Follows : List Meanwhile → Tables → List Pass → Prop
  | _, _, [] => True
  | script, read, pass :: rest =>
      pass.read = read ∧ ∀ write, pass.write = some write →
        write.before = (script.headD {}).afterCheck read ∧
          Course.Follows script.tail ((script.headD {}).beforeRead write.after) rest

/-- What holds of a change of status with so many passes at most, whatever the other writers of a script do
meanwhile. -/
structure Course.Sound (root : Bytes) (next : Status) (given : Option Civil) (spare : Nat)
    (script : List Meanwhile) (read : Tables) (course : Course) : Prop where
  follows : Course.Follows script read course.passes
  short : course.passes.length ≤ spare
  /-- Only a confirmation writes, and only where the checkpoint is pending. -/
  writes : ∀ pass ∈ course.passes, ∀ write, pass.write = some write →
    next = .mined ∧ ∃ civil checkpoint, given = some civil ∧ pass.Allowed root checkpoint ∧
      write.Settles root civil
  once : course.passes.countP Pass.effective ≤ 1
  /-- A checkpoint is reported as written exactly if it was. -/
  reported : ∀ checkpoint written, course.outcome.1 = .ok (checkpoint, written) →
    course.passes.any Pass.effective = written
  /-- A change that has written fails only if the checkpoint has gone since. -/
  interrupted : course.passes.any Pass.effective = true → ∀ failure,
    course.outcome.1 = .error failure → failure = .refused (.unknownRoot root)
  changing : course.outcome.1 = .error (.refused (.keepsChanging root)) ↔
    course.passes.length = spare ∧ ∀ pass ∈ course.passes, pass.Lost root

theorem replacing_confirmed_ne {checkpoint : Checkpoint}
    (recorded : tables.withRoot? root = some checkpoint) (pending : checkpoint.status = .pending)
    (civil : Civil) : tables.replacing (checkpoint.confirmed civil) ≠ tables := by
  intro same
  have named := Tables.root_of_withRoot? recorded
  have found := Tables.withRoot?_replacing recorded (checkpoint.confirmed civil) named
  rw [same, recorded] at found
  have status := congrArg Checkpoint.status (Option.some.inj found)
  rw [pending] at status
  cases status

namespace Pass

variable {pass : Pass} {write : Write}

theorem effective_of_unwritten (none : pass.write = none) : pass.effective = false := by
  rw [effective, none]
  rfl

theorem effective_of_kept (written : pass.write = some write) (kept : write.after = write.before) :
    pass.effective = false := by
  rw [effective, written, Option.any_some, kept, bne_self_eq_false]

theorem effective_of_changed (written : pass.write = some write) (changed : write.after ≠ write.before) :
    pass.effective = true := by
  rw [effective, written, Option.any_some, bne_iff_ne]
  exact changed

theorem not_lost_of_unwritten (none : pass.write = none) : ¬ pass.Lost root := by
  intro ⟨_, write, written, _⟩
  rw [none] at written
  cases written

theorem not_lost_of_pending (written : pass.write = some write) (pending : write.before.Pending root) :
    ¬ pass.Lost root := by
  intro ⟨_, other, same, gone⟩
  rw [written] at same
  cases same
  exact gone pending

end Pass

namespace Course.Sound

variable {spare : Nat} {read : Tables} {pass : Pass}

theorem exhausted (root : Bytes) (next : Status) (given : Option Civil) (script : List Meanwhile)
    (read tables : Tables) :
    (Course.ended (.error (.refused (.keepsChanging root)), tables)).Sound root next given 0 script
      read := by
  refine ⟨trivial, Nat.le_refl 0, ?_, Nat.zero_le 1, ?_, ?_, ?_⟩
  · intro pass member
    cases member
  · intro checkpoint written reported
    cases reported
  · intro effective
    cases effective
  · simp [Course.ended]

theorem unwritten {outcome : Outcome} (reads : pass.read = read) (none : pass.write = none)
    (settled : outcome.1 ≠ .error (.refused (.keepsChanging root)))
    (unreported : ∀ checkpoint, outcome.1 ≠ .ok (checkpoint, true)) :
    ((Course.ended outcome).prepend pass).Sound root next given (spare + 1) script read := by
  have idle := Pass.effective_of_unwritten none
  refine ⟨⟨reads, by simp [none]⟩, by simp [Course.prepend, Course.ended], ?_,
    by simp [Course.prepend, Course.ended, idle], ?_, ?_, ?_⟩
  · intro other member write written
    rw [List.mem_singleton.mp member, none] at written
    cases written
  · intro checkpoint written reported
    cases written with
    | false => simp [Course.prepend, Course.ended, idle]
    | true => exact absurd reported (unreported checkpoint)
  · simp [Course.prepend, Course.ended, idle]
  · have held : ¬ pass.Lost root := Pass.not_lost_of_unwritten none
    simp [Course.prepend, Course.ended, settled, held]

theorem won {write : Write} {civil : Civil} {checkpoint current : Checkpoint} {last : Tables}
    (reads : pass.read = read) (mined : next = .mined) (time : given = some civil)
    (allowed : pass.Allowed root checkpoint) (written : pass.write = some write)
    (before : write.before = (script.headD {}).afterCheck read)
    (recorded : write.before.withRoot? root = some current) (pending : current.status = .pending)
    (after : write.after = write.before.replacing (current.confirmed civil)) :
    ((Course.ended ((Checkpoints.get last root).map fun checkpoint => (checkpoint, true),
      last)).prepend pass).Sound root next given (spare + 1) script read := by
  have effective : pass.effective = true := by
    refine Pass.effective_of_changed written ?_
    rw [after]
    exact replacing_confirmed_ne recorded pending civil
  have held := Pass.not_lost_of_pending written ⟨current, recorded, pending⟩
  refine ⟨⟨reads, ?_⟩, by simp [Course.prepend, Course.ended], ?_,
    by simp [Course.prepend, Course.ended, effective], ?_, ?_, ?_⟩
  · intro own ownWritten
    rw [written] at ownWritten
    cases ownWritten
    exact ⟨before, trivial⟩
  · intro other member own ownWritten
    rw [List.mem_singleton.mp member, written] at ownWritten
    cases ownWritten
    rw [List.mem_singleton.mp member]
    exact ⟨mined, civil, checkpoint, time, allowed, .confirmed current recorded pending after⟩
  all_goals
    rw [Checkpoints.get]
    cases last.withRoot? root with
    | none => simp [Course.prepend, Course.ended, Except.map, effective, held]
    | some reread => simp [Course.prepend, Course.ended, Except.map, effective, held]

theorem lost {course : Course} {write : Write} {civil : Civil} {checkpoint : Checkpoint}
    (sound : course.Sound root next given spare script.tail ((script.headD {}).beforeRead write.after))
    (reads : pass.read = read) (mined : next = .mined) (time : given = some civil)
    (allowed : pass.Allowed root checkpoint) (written : pass.write = some write)
    (before : write.before = (script.headD {}).afterCheck read)
    (gone : ¬ write.before.Pending root) (after : write.after = write.before) :
    (course.prepend pass).Sound root next given (spare + 1) script read := by
  have idle := Pass.effective_of_kept written after
  have lost : pass.Lost root := ⟨⟨checkpoint, allowed⟩, write, written, gone⟩
  refine ⟨⟨reads, ?_⟩, Nat.succ_le_succ sound.short, ?_, ?_, ?_, ?_, ?_⟩
  · intro own ownWritten
    rw [written] at ownWritten
    cases ownWritten
    exact ⟨before, sound.follows⟩
  · intro other member own ownWritten
    rcases List.mem_cons.mp member with rfl | later
    · rw [written] at ownWritten
      cases ownWritten
      exact ⟨mined, civil, checkpoint, time, allowed, .kept gone after⟩
    · exact sound.writes other later own ownWritten
  · rw [Course.prepend, List.countP_cons_of_neg (by simp [idle])]
    exact sound.once
  · intro row reportedWritten reported
    rw [Course.prepend, List.any_cons, idle, Bool.false_or]
    exact sound.reported row reportedWritten reported
  · rw [Course.prepend, List.any_cons, idle, Bool.false_or]
    exact sound.interrupted
  · have rest := sound.changing
    simp only [Course.prepend, List.length_cons, Nat.add_right_cancel_iff, List.forall_mem_cons]
    rw [rest]
    simp [lost]

end Course.Sound

theorem headD_lawful (lawfully : ∀ meanwhile ∈ script, meanwhile.Lawful) :
    (script.headD {}).Lawful := by
  cases script with
  | nil => exact ⟨fun _ => id, fun _ => id⟩
  | cons first rest => exact lawfully first (by simp)

/-- By induction on the passes that are left: the first one ends the course or has lost. -/
theorem passesAmid_sound (conditions : Conditions) (root : Bytes) (next : Status)
    (given : Option Civil) (remaining : Nat) (before : Tables → Tables)
    (lawfully : ∀ meanwhile ∈ script, meanwhile.Lawful) (lawful : (before tables).Lawful) :
    (passesAmid .declared conditions root next given remaining before script tables).Sound root next
      given remaining script (before tables) := by
  induction remaining generalizing before script tables with
  | zero => exact .exhausted root next given script (before tables) tables
  | succ remaining inductionHypothesis =>
      have during := headD_lawful lawfully
      have checked := during.afterCheck _ lawful
      have begins := passesAmid_begins conditions root next given remaining before script tables checked
      generalize passesAmid .declared conditions root next given (remaining + 1) before script tables =
        course at begins ⊢
      cases begins with
      | unwritten pass outcome reads none settled unreported =>
          exact .unwritten reads none settled unreported
      | won pass write checkpoint current civil reads mined time allowed written before recorded pending
          after =>
          exact .won reads mined time allowed written before recorded pending after
      | lost pass write checkpoint civil reads mined time allowed written before gone after =>
          have sound := inductionHypothesis (script.headD {}).beforeRead
            (fun meanwhile member => lawfully meanwhile (List.mem_of_mem_tail member))
            (during.beforeRead _ checked)
          -- The losing write has left the tables as it found them.
          rw [← after.trans before] at sound ⊢
          exact sound.lost reads mined time allowed written before gone after

theorem applyAmid_sound (conditions : Conditions) (root : Bytes) (next : Status)
    (given : Option Timestamp) (lawfully : ∀ meanwhile ∈ script, meanwhile.Lawful)
    (lawful : tables.Lawful) :
    (applyAmid .declared conditions script root next given tables).Sound root next
      (given.bind Timestamp.toUniversal?) 2 script tables := by
  cases given with
  | none => exact passesAmid_sound conditions root next none 2 id lawfully lawful
  | some minedAt =>
      rw [applyAmid, Option.mapM_some, Checkpoints.universal, Option.bind_some]
      cases minedAt.toUniversal? with
      | none =>
          refine ⟨trivial, Nat.zero_le 2, ?_, Nat.zero_le 1, ?_, ?_, ?_⟩ <;> simp [Course.ended]
      | some civil => exact passesAmid_sound conditions root next (some civil) 2 id lawfully lawful

/-! ## A checkpoint that has gone -/

theorem passesAmid_of_absent (conditions : Conditions) (next : Status) (given : Option Civil)
    (remaining : Nat) (before : Tables → Tables) (script : List Meanwhile)
    (absent : (before tables).withRoot? root = none) :
    (passesAmid .declared conditions root next given (remaining + 1) before script tables).outcome.1 =
      .error (.refused (.unknownRoot root)) := by
  have unknown : examine (before tables) root next given = .error (.refused (.unknownRoot root)) := by
    rw [examine, Checkpoints.get, absent]
    rfl
  rw [passesAmid]
  simp only [unknown, Course.prepend, Course.ended]

theorem applyAmid_of_deleted (conditions : Conditions) (root : Bytes) (next : Status)
    (given : Option Timestamp) (lawfully : ∀ meanwhile ∈ script, meanwhile.Lawful)
    (lawful : tables.Lawful)
    (absent : ((script.headD {}).beforeRead ((script.headD {}).afterCheck tables)).withRoot? root =
      none) :
    let course := applyAmid .declared conditions script root next given tables
    ∀ first ∈ course.passes.head?, first.Lost root →
      course.outcome.1 = .error (.refused (.unknownRoot root)) := by
  intro course first firstPass lost
  cases converted : given.mapM Checkpoints.universal with
  | error failure =>
      have stopped : course = .ended (.error failure, tables) := by
        simp only [course, applyAmid, converted]
      rw [stopped] at firstPass
      cases firstPass
  | ok civil =>
      have followed : course = passesAmid .declared conditions root next civil 2 id script tables := by
        simp only [course, applyAmid, converted]
      have checked := (headD_lawful lawfully).afterCheck tables lawful
      have begins := passesAmid_begins conditions root next civil 1 id script tables checked
      rw [← followed] at begins
      generalize course = followedCourse at begins firstPass ⊢
      cases begins with
      | unwritten pass outcome reads none settled unreported =>
          cases firstPass
          exact absurd lost (Pass.not_lost_of_unwritten none)
      | won pass write checkpoint current time reads mined given allowed written before recorded pending
          after =>
          cases firstPass
          exact absurd lost (Pass.not_lost_of_pending written ⟨current, recorded, pending⟩)
      | lost pass write checkpoint time reads mined given allowed written before gone after =>
          exact passesAmid_of_absent conditions next civil 0 _ _ absent

/-! ## In a transaction -/

/-- A confirmation that fails has kept nothing, unless it fails after its commit because the checkpoint that it
has written and read again has no time to report. -/
theorem transacted_error {outcome : Outcome} {failure : Failure}
    (failed : (transacted conditions tables outcome).result = .error failure) :
    let confirmed := transacted conditions tables outcome
    (confirmed.tables = tables ∧ confirmed.counted = false) ∨
      failure = .timeGone ∧ confirmed.tables = outcome.2 ∧ confirmed.counted = true ∧
        ∃ checkpoint, outcome.1 = .ok (checkpoint, true) ∧ checkpoint.minedAt = none := by
  obtain ⟨result, after⟩ := outcome
  cases result with
  | error refused => exact Or.inl ⟨rfl, rfl⟩
  | ok report =>
      obtain ⟨checkpoint, written⟩ := report
      rw [transacted] at failed ⊢
      by_cases lost : conditions.strikes .commit
      · rw [if_pos lost]
        exact Or.inl ⟨rfl, rfl⟩
      · rw [if_neg lost] at failed ⊢
        by_cases timeless : (written && checkpoint.minedAt.isNone) = true
        · rw [if_pos timeless] at failed ⊢
          rw [Bool.and_eq_true, Option.isNone_iff_eq_none] at timeless
          obtain ⟨rfl, none⟩ := timeless
          exact Or.inr ⟨(Except.error.inj failed).symm, rfl, rfl, checkpoint, rfl, none⟩
        · rw [if_neg timeless] at failed
          cases failed

/-- Whatever other writers do in the transaction of a change of status, it makes two passes at most, writes
once at most, and writes only the time that was given over a checkpoint that is pending at that instant.  It
reports a write exactly if it has written.  It gives up on a status that keeps changing exactly if both passes
have lost; after a deletion in the first one it does not know the root, unless the checkpoint was put back.
A confirmation that fails has kept nothing, but for one case: the write is committed, and the time that is
reported then was taken away before the checkpoint was read again. -/
theorem status_change_amid_writers (conditions : Conditions) (root : Bytes) (next : Status)
    (given : Option Timestamp) (lawful : tables.Lawful) (script : List Meanwhile)
    (lawfully : ∀ meanwhile ∈ script, meanwhile.Lawful) :
    let during := script.headD {}
    let course := applyAmid .declared conditions script root next given tables
    let confirmed := transacted conditions tables course.outcome
    course.Sound root next (given.bind Timestamp.toUniversal?) 2 script tables ∧
      ((during.beforeRead (during.afterCheck tables)).withRoot? root = none →
        ∀ first ∈ course.passes.head?, first.Lost root →
          course.outcome.1 = .error (.refused (.unknownRoot root))) ∧
      (∀ failure, confirmed.result = .error failure →
        (confirmed.tables = tables ∧ confirmed.counted = false) ∨
          failure = .timeGone ∧ confirmed.tables = course.outcome.2 ∧ confirmed.counted = true ∧
            ∃ checkpoint, course.outcome.1 = .ok (checkpoint, true) ∧ checkpoint.minedAt = none) ∧
      ∀ interruptions, script = interruptions.map (Interruption.meanwhile .declared root) →
        course.outcome = applyStatus .declared conditions interruptions root next given tables ∧
          ∀ minedAt, next = .mined → given = some minedAt →
            confirmed = confirm .declared conditions interruptions root minedAt tables := by
  intro during course confirmed
  refine ⟨applyAmid_sound conditions root next given lawfully lawful,
    applyAmid_of_deleted conditions root next given lawfully lawful,
    fun failure failed => transacted_error failed, ?_⟩
  intro interruptions scripted
  have applied : course.outcome =
      applyStatus .declared conditions interruptions root next given tables := by
    simp only [course, scripted]
    exact outcome_applyAmid .declared conditions root next given interruptions tables
  refine ⟨applied, ?_⟩
  intro minedAt mined timed
  subst mined timed
  rw [confirm_eq_transacted, ← applied]

section Instances

open Race

def march : Civil :=
  { year := 2026, month := 3, day := 1 }

def deletion : Interruption :=
  { afterCheck := .delete }

def putBack : Meanwhile :=
  { deletion.meanwhile .declared [7] with beforeRead := fun _ => onePending }

/-- After a deletion in the first pass, a confirmation does not know the root; where the checkpoint is put back,
the second pass wins. -/
theorem status_change_amid_writers_putBack :
    let time := Timestamp.ofCivil march
    let course := applyAmid .declared {} [putBack] [7] .mined (some time) onePending
    onePending.Lawful ∧ (deletion.meanwhile .declared [7]).Lawful ∧ putBack.Lawful ∧
      (applyStatus .declared {} [deletion] [7] .mined (some time) onePending).1 =
        .error (.refused (.unknownRoot [7])) ∧
      course.Sound [7] .mined (some march) 2 [putBack] onePending ∧
      course.passes.map Pass.effective = [false, true] ∧
      course.outcome = (.ok (unconfirmed.confirmed march, true),
        onePending.replacing (unconfirmed.confirmed march)) := by
  intro time course
  have lawful : onePending.Lawful := by decide
  have deleting := Interruption.lawful_meanwhile [7] deletion
  have puttingBack : putBack.Lawful := ⟨deleting.afterCheck, fun _ _ => lawful⟩
  have deleted := status_change_amid_writers {} [7] .mined (some time) lawful
    [deletion.meanwhile .declared [7]] (by simpa using deleting)
  have lost : Pass.Lost [7] ⟨onePending, .ok (unconfirmed, true),
      some ⟨{ onePending with checkpoints := [] }, { onePending with checkpoints := [] }⟩⟩ := by
    refine ⟨⟨unconfirmed, rfl, rfl, rfl⟩, _, rfl, ?_⟩
    intro ⟨_, there, _⟩
    cases there
  have unknown := deleted.2.1 (by decide +kernel) _ rfl lost
  rw [(deleted.2.2.2 [deletion] rfl).1] at unknown
  have restored := status_change_amid_writers {} [7] .mined (some time) lawful [putBack]
    (by simpa using puttingBack)
  exact ⟨lawful, deleting, puttingBack, unknown, restored.1, by decide +kernel, by decide +kernel⟩

/-- A checkpoint is confirmed, and another writer takes its time away before it is read again: the confirmation
fails after its commit. -/
theorem confirm_fails_committed :
    let confirmed := confirm .declared {} [{ beforeRead := .write .mined none }] [7]
      (.ofCivil march) onePending
    confirmed.result = .error .timeGone ∧ confirmed.counted = true ∧
      (confirmed.tables.withRoot? [7]).map (·.status) = some .mined ∧
      (onePending.withRoot? [7]).map (·.status) = some .pending := by
  decide +kernel

end Instances

end Confirmation

end CommitmentLog
