import CommitmentLog.Proofs.Confirmation.Calls

/-!
# The outcome of a race

Confirmations that race for a pending checkpoint settle it once.  Before the first conditional write nothing
has changed, and every call has found the checkpoint pending or has not looked at it yet.  From that write on
the checkpoint is mined.  So no later write finds the status for which it was made, and whoever reads the
checkpoint from then on ends there.
-/

set_option autoImplicit false

namespace CommitmentLog.Confirmation

open Store

/-! ## Turns -/

namespace Race

variable {schema : Schema} {root : Bytes} {race : Race} {index : Nat} {stage other : Stage}
  {after : Tables}

theorem turn_of_ended (ended : ∀ stage, race.calls[index]? = some stage → stage.isOver = true) :
    race.turn schema root index = race := by
  rw [turn]
  split
  case h_1 => rfl
  case h_2 stage there => rw [if_pos (ended stage there)]

theorem turn_of_next (there : race.calls[index]? = some stage) (going : stage.isOver = false)
    (stepped : stage.next schema root race.tables = (other, after)) :
    race.turn schema root index =
      { tables := after
        counters := race.counters.afterConfirmation other.counted
        calls := race.calls.set index other } := by
  simp only [turn, there, going, stepped, Bool.false_eq_true, if_false]

theorem length_turn (schema : Schema) (root : Bytes) (race : Race) (index : Nat) :
    (race.turn schema root index).calls.length = race.calls.length := by
  rw [turn]
  split
  · rfl
  · split
    · rfl
    · exact List.length_set

theorem getElem?_turn_of_ne {other : Nat} (different : other ≠ index) :
    (race.turn schema root index).calls[other]? = race.calls[other]? := by
  rw [turn]
  split
  · rfl
  · split
    · rfl
    · exact List.getElem?_set_ne different.symm

def remaining (race : Race) (index : Nat) : Nat :=
  (race.calls[index]?.map Stage.remaining).getD 0

theorem remaining_turn_of_ne {other : Nat} (different : other ≠ index) :
    (race.turn schema root index).remaining other = race.remaining other := by
  rw [remaining, remaining, getElem?_turn_of_ne different]

theorem getElem?_turn_of_next (there : race.calls[index]? = some stage)
    (going : stage.isOver = false)
    (stepped : stage.next schema root race.tables = (other, after)) :
    (race.turn schema root index).calls[index]? = some other := by
  have within : index < race.calls.length := (List.getElem?_eq_some_iff.mp there).1
  rw [turn_of_next there going stepped]
  exact List.getElem?_set_self within

theorem remaining_turn_of_next (there : race.calls[index]? = some stage) (going : stage.isOver = false)
    (stepped : stage.next schema root race.tables = (other, after))
    (nearer : other.remaining < stage.remaining) :
    (race.turn schema root index).remaining index ≤ race.remaining index - 1 := by
  rw [remaining, remaining, there, getElem?_turn_of_next there going stepped]
  exact Nat.le_sub_one_of_lt nearer

theorem remaining_eq_zero_iff (race : Race) (index : Nat) :
    race.remaining index = 0 ↔ ∀ stage, race.calls[index]? = some stage → stage.isOver = true := by
  rw [remaining]
  cases race.calls[index]? with
  | none => simp
  | some stage => simp [Stage.remaining_eq_zero_iff]

theorem remaining_turn_of_ended
    (ended : ∀ stage, race.calls[index]? = some stage → stage.isOver = true) :
    (race.turn schema root index).remaining index ≤ race.remaining index - 1 := by
  rw [turn_of_ended ended, (remaining_eq_zero_iff race index).mpr ended]

/-- What holds of the call whose turn it was, and of all others before, holds of every call. -/
theorem forall_calls_turn {holds : Nat → Stage → Prop} (there : race.calls[index]? = some stage)
    (going : stage.isOver = false)
    (stepped : stage.next schema root race.tables = (other, after)) (own : holds index other)
    (kept : ∀ position call, position ≠ index → race.calls[position]? = some call →
      holds position call) :
    ∀ position call, (race.turn schema root index).calls[position]? = some call →
      holds position call := by
  intro position call found
  by_cases same : position = index
  · rw [same, getElem?_turn_of_next there going stepped] at found
    cases found
    rw [same]
    exact own
  · rw [getElem?_turn_of_ne same] at found
    exact kept position call same found

def given? (times : List Timestamp) (index : Nat) : Option Civil :=
  times[index]?.bind Timestamp.toUniversal?

structure Undecided (tables : Tables) (counters : Counters) (times : List Timestamp) (race : Race) :
    Prop where
  tables : race.tables = tables
  counters : race.counters = counters
  length : race.calls.length = times.length
  calls : ∀ index stage, race.calls[index]? = some stage →
    ∃ given, given? times index = some given ∧ stage.Waiting given

/-- The winner has written, or has written and ended; every other call comes late. -/
structure Decided (tables : Tables) (root : Bytes) (checkpoint : Checkpoint) (counters : Counters)
    (times : List Timestamp) (winner : Nat) (settled : Civil) (race : Race) : Prop where
  tables : race.tables = tables.replacing (checkpoint.confirmed settled)
  length : race.calls.length = times.length
  time : given? times winner = some settled
  won :
    race.calls[winner]? = some .rereading ∧ race.counters = counters ∨
      race.calls[winner]? = some (.ended (.ok (checkpoint.confirmed settled)) true) ∧
        race.counters = counters.afterConfirmation true
  others : ∀ index stage, race.calls[index]? = some stage → index ≠ winner →
    ∃ given, given? times index = some given ∧
      stage.Late root (checkpoint.confirmed settled) settled given

variable {tables : Tables} {checkpoint : Checkpoint} {counters : Counters} {times : List Timestamp}
  {winner : Nat} {settled : Civil}

theorem Undecided.turn (lawful : tables.Lawful)
    (recorded : tables.withRoot? root = some checkpoint) (pending : checkpoint.status = .pending)
    (undecided : Undecided tables counters times race) (index : Nat) :
    (Undecided tables counters times (race.turn .declared root index) ∨
      ∃ settled, Decided tables root checkpoint counters times index settled
        (race.turn .declared root index)) ∧
      (race.turn .declared root index).remaining index ≤ race.remaining index - 1 := by
  cases there : race.calls[index]? with
  | none =>
      have absent : ∀ stage, race.calls[index]? = some stage → stage.isOver = true := by
        simp [there]
      refine ⟨Or.inl ?_, remaining_turn_of_ended absent⟩
      rw [turn_of_ended absent]
      exact undecided
  | some stage =>
      obtain ⟨given, time, waiting⟩ := undecided.calls index stage there
      have length := (length_turn .declared root race index).trans undecided.length
      rcases waiting.next_cases lawful recorded pending with
        ⟨later, stepped, waits, uncounted, nearer⟩ | ⟨stepped, nearer⟩
      · rw [← undecided.tables] at stepped
        have turned := turn_of_next there waiting.going stepped
        refine ⟨Or.inl ⟨?_, ?_, length, ?_⟩,
          remaining_turn_of_next there waiting.going stepped nearer⟩
        · rw [turned, undecided.tables]
        · rw [turned, uncounted]
          exact undecided.counters
        · refine forall_calls_turn there waiting.going stepped ?_ ?_
          · exact ⟨given, time, waits⟩
          · intro position call _ found
            exact undecided.calls position call found
      · rw [← undecided.tables] at stepped
        have turned := turn_of_next there waiting.going stepped
        refine ⟨Or.inr ⟨given, ?_, length, time, ?_, ?_⟩,
          remaining_turn_of_next there waiting.going stepped nearer⟩
        · rw [turned, undecided.tables]
        · rw [getElem?_turn_of_next there waiting.going stepped, turned]
          exact Or.inl ⟨rfl, undecided.counters⟩
        · refine forall_calls_turn there waiting.going stepped ?_ ?_
          · exact fun different => absurd rfl different
          · intro position call _ found _
            obtain ⟨otherGiven, otherTime, otherWaits⟩ := undecided.calls position call found
            exact ⟨otherGiven, otherTime, otherWaits.late⟩

theorem Decided.recorded (recorded : tables.withRoot? root = some checkpoint)
    (decided : Decided tables root checkpoint counters times winner settled race) :
    race.tables.withRoot? root = some (checkpoint.confirmed settled) := by
  have named := Tables.root_of_withRoot? recorded
  rw [decided.tables]
  exact Tables.withRoot?_replacing recorded (checkpoint.confirmed settled) named

theorem Decided.lawful (lawful : tables.Lawful)
    (recorded : tables.withRoot? root = some checkpoint)
    (decided : Decided tables root checkpoint counters times winner settled race) :
    race.tables.Lawful := by
  rw [decided.tables]
  exact lawful_replacing lawful recorded settled

theorem Decided.turn_winner (recorded : tables.withRoot? root = some checkpoint)
    (decided : Decided tables root checkpoint counters times winner settled race)
    (rereads : race.calls[winner]? = some .rereading) (uncounted : race.counters = counters) :
    Decided tables root checkpoint counters times winner settled (race.turn .declared root winner) ∧
      (race.turn .declared root winner).remaining winner ≤ race.remaining winner - 1 := by
  have stepped := Stage.next_rereading_of_confirmed (decided.recorded recorded)
  have turned := turn_of_next rereads rfl stepped
  refine ⟨⟨?_, (length_turn ..).trans decided.length, decided.time, ?_, ?_⟩,
    remaining_turn_of_next rereads rfl stepped Nat.zero_lt_one⟩
  · rw [turned]
    exact decided.tables
  · rw [getElem?_turn_of_next rereads rfl stepped, turned, uncounted]
    exact Or.inr ⟨rfl, rfl⟩
  · refine forall_calls_turn rereads rfl stepped ?_ ?_
    · exact fun different => absurd rfl different
    · intro position call _ found
      exact decided.others position call found

theorem Decided.turn_late (lawful : tables.Lawful)
    (recorded : tables.withRoot? root = some checkpoint)
    (decided : Decided tables root checkpoint counters times winner settled race)
    (different : index ≠ winner) (there : race.calls[index]? = some stage)
    (going : stage.isOver = false) :
    Decided tables root checkpoint counters times winner settled (race.turn .declared root index) ∧
      (race.turn .declared root index).remaining index ≤ race.remaining index - 1 := by
  obtain ⟨given, time, late⟩ := decided.others index stage there different
  rcases late.next_cases (decided.lawful lawful recorded) (decided.recorded recorded) with
    finished | ⟨later, stepped, stillLate, uncounted, nearer⟩
  · exact absurd (going.symm.trans finished) Bool.false_ne_true
  · have turned := turn_of_next there going stepped
    refine ⟨⟨?_, (length_turn ..).trans decided.length, decided.time, ?_, ?_⟩,
      remaining_turn_of_next there going stepped nearer⟩
    · rw [turned]
      exact decided.tables
    · rw [getElem?_turn_of_ne different.symm, turned, uncounted]
      exact decided.won
    · refine forall_calls_turn there going stepped ?_ ?_
      · exact fun _ => ⟨given, time, stillLate⟩
      · intro position call _ found
        exact decided.others position call found

/-- After the first write no turn changes who has won and when. -/
theorem Decided.turn (lawful : tables.Lawful)
    (recorded : tables.withRoot? root = some checkpoint)
    (decided : Decided tables root checkpoint counters times winner settled race) (index : Nat) :
    Decided tables root checkpoint counters times winner settled (race.turn .declared root index) ∧
      (race.turn .declared root index).remaining index ≤ race.remaining index - 1 := by
  by_cases ended : ∀ stage, race.calls[index]? = some stage → stage.isOver = true
  · refine ⟨?_, remaining_turn_of_ended ended⟩
    rw [turn_of_ended ended]
    exact decided
  · simp only [not_forall, Bool.not_eq_true] at ended
    obtain ⟨stage, there, going⟩ := ended
    by_cases own : index = winner
    · -- The winner has not ended, so the only thing left for it is to read again.
      subst own
      rcases decided.won with ⟨rereads, uncounted⟩ | ⟨finished, _⟩
      · exact decided.turn_winner recorded rereads uncounted
      · cases there.symm.trans finished
        cases going
    · exact decided.turn_late lawful recorded own there going

/-! ## Runs -/

theorem Decided.run (lawful : tables.Lawful)
    (recorded : tables.withRoot? root = some checkpoint)
    (decided : Decided tables root checkpoint counters times winner settled race)
    (turns : List Nat) :
    Decided tables root checkpoint counters times winner settled
      (race.run .declared root turns) := by
  induction turns generalizing race with
  | nil => exact decided
  | cons index rest inductionHypothesis =>
      exact inductionHypothesis (decided.turn lawful recorded index).1

theorem Undecided.run (lawful : tables.Lawful)
    (recorded : tables.withRoot? root = some checkpoint) (pending : checkpoint.status = .pending)
    (undecided : Undecided tables counters times race) (turns : List Nat) :
    Undecided tables counters times (race.run .declared root turns) ∨
      ∃ earlier winner later settled, turns = earlier ++ winner :: later ∧
        (∀ part, part <+: earlier →
          Undecided tables counters times (race.run .declared root part)) ∧
        ∀ part, part <+: later →
          Decided tables root checkpoint counters times winner settled
            (race.run .declared root (earlier ++ winner :: part)) := by
  induction turns generalizing race with
  | nil => exact Or.inl undecided
  | cons index rest inductionHypothesis =>
      rcases (undecided.turn lawful recorded pending index).1 with waits | ⟨settled, decided⟩
      · rcases inductionHypothesis waits with
          never | ⟨earlier, winner, later, settled, split, before, since⟩
        · exact Or.inl never
        · right
          refine ⟨index :: earlier, winner, later, settled, congrArg _ split, ?_, since⟩
          intro part begins
          cases part with
          | nil => exact undecided
          | cons first part =>
              obtain ⟨same, restBegins⟩ := List.cons_prefix_cons.mp begins
              rw [same]
              exact before part restBegins
      · -- This turn is the first write, and all turns behind it come late.
        right
        refine ⟨[], index, rest, settled, rfl, ?_, ?_⟩
        · intro part begins
          rw [List.prefix_nil.mp begins]
          exact undecided
        · intro part _
          exact decided.run lawful recorded part

def Steady (tables : Tables) (root : Bytes) (checkpoint : Checkpoint) (counters : Counters)
    (times : List Timestamp) (race : Race) : Prop :=
  Undecided tables counters times race ∨
    ∃ winner settled, Decided tables root checkpoint counters times winner settled race

theorem Steady.turn (lawful : tables.Lawful)
    (recorded : tables.withRoot? root = some checkpoint) (pending : checkpoint.status = .pending)
    (steady : Steady tables root checkpoint counters times race) (index : Nat) :
    Steady tables root checkpoint counters times (race.turn .declared root index) ∧
      (race.turn .declared root index).remaining index ≤ race.remaining index - 1 := by
  rcases steady with undecided | ⟨winner, settled, decided⟩
  · obtain ⟨waits | ⟨settled, decided⟩, nearer⟩ := undecided.turn lawful recorded pending index
    · exact ⟨Or.inl waits, nearer⟩
    · exact ⟨Or.inr ⟨index, settled, decided⟩, nearer⟩
  · obtain ⟨stays, nearer⟩ := decided.turn lawful recorded index
    exact ⟨Or.inr ⟨winner, settled, stays⟩, nearer⟩

theorem Steady.remaining_run (lawful : tables.Lawful)
    (recorded : tables.withRoot? root = some checkpoint) (pending : checkpoint.status = .pending)
    (steady : Steady tables root checkpoint counters times race) (turns : List Nat) (index : Nat) :
    (race.run .declared root turns).remaining index ≤ race.remaining index - turns.count index := by
  induction turns generalizing race with
  | nil => exact Nat.le_refl _
  | cons first rest inductionHypothesis =>
      obtain ⟨stays, nearer⟩ := steady.turn lawful recorded pending first
      have later := inductionHypothesis stays
      change ((race.turn .declared root first).run .declared root rest).remaining index ≤ _
      by_cases own : first = index
      · subst own
        rw [List.count_cons_self]
        omega
      · rw [remaining_turn_of_ne (Ne.symm own)] at later
        rw [List.count_cons_of_ne own]
        exact later

theorem undecided_start (convertible : ∀ time ∈ times, time.toUniversal?.isSome)
    (tables : Tables) (root : Bytes) (counters : Counters) :
    Undecided tables counters times (start root tables counters times) := by
  refine ⟨rfl, rfl, by simp [start], ?_⟩
  intro index stage found
  simp only [start, List.getElem?_map, Option.map_eq_some_iff] at found
  obtain ⟨time, there, started⟩ := found
  obtain ⟨given, converted⟩ := Option.isSome_iff_exists.mp
    (convertible time (List.mem_of_getElem? there))
  refine ⟨given, by rw [given?, there]; exact converted, ?_⟩
  rw [← started, Stage.start, Checkpoints.universal, converted]
  exact .checking

theorem remaining_le_three (race : Race) (index : Nat) : race.remaining index ≤ 3 := by
  rw [remaining]
  cases race.calls[index]? with
  | none => exact Nat.zero_le 3
  | some stage => exact stage.remaining_le_three

theorem isOver_of_getElem? (finished : race.isOver = true) (there : race.calls[index]? = some stage) :
    stage.isOver = true :=
  List.all_eq_true.mp finished stage (List.mem_of_getElem? there)

theorem Undecided.not_over (undecided : Undecided tables counters times race) (called : times ≠ []) :
    race.isOver = false := by
  apply Bool.eq_false_iff.mpr
  intro finished
  have first : 0 < race.calls.length := by
    rw [undecided.length]
    exact List.length_pos_iff.mpr called
  have there := List.getElem?_eq_getElem first
  obtain ⟨given, _, waits⟩ := undecided.calls 0 _ there
  have ended := isOver_of_getElem? finished there
  exact absurd (waits.going.symm.trans ended) Bool.false_ne_true

theorem Decided.won_of_over
    (decided : Decided tables root checkpoint counters times winner settled race)
    (finished : race.isOver = true) :
    race.calls[winner]? = some (.ended (.ok (checkpoint.confirmed settled)) true) ∧
      race.counters = counters.afterConfirmation true := by
  rcases decided.won with ⟨rereads, _⟩ | ended
  · exact absurd (isOver_of_getElem? finished rereads) Bool.false_ne_true
  · exact ended

theorem Decided.late_of_over
    (decided : Decided tables root checkpoint counters times winner settled race)
    (finished : race.isOver = true) {given : Civil} (different : index ≠ winner)
    (asked : given? times index = some given) :
    race.calls[index]? =
      some (.ended (repeated root (checkpoint.confirmed settled) settled given) false) := by
  have within : index < race.calls.length := by
    rw [decided.length]
    obtain ⟨time, there, _⟩ := Option.bind_eq_some_iff.mp asked
    exact (List.getElem?_eq_some_iff.mp there).1
  have there := List.getElem?_eq_getElem within
  obtain ⟨other, same, late⟩ := decided.others index _ there different
  have ended := isOver_of_getElem? finished there
  cases asked.symm.trans same
  rw [there, late.eq_of_over ended]

/-- Confirmations that race for a pending checkpoint settle it once, in whatever order they take their
turns.  Three statements are enough for each call, so none gets further than the check of its second pass.
When all have ended, one call has written: the checkpoint is mined at its time from its write on, and nothing
else has changed.  Every other call has returned the checkpoint as it is, or was refused because it names an
earlier time; none of them counts.  The statements of a call are those of a confirmation: with other writers
between them they come to what the confirmation as a whole comes to. -/
theorem race_settles_once {tables : Tables} {root : Bytes} {checkpoint : Checkpoint}
    (lawful : tables.Lawful) (recorded : tables.withRoot? root = some checkpoint)
    (pending : checkpoint.status = .pending) (counters : Counters) (times : List Timestamp)
    (called : times ≠ []) (convertible : ∀ time ∈ times, time.toUniversal?.isSome)
    (turns : List Nat) :
    let race := (start root tables counters times).run .declared root
    (∀ index, 3 ≤ turns.count index →
      ∀ stage, (race turns).calls[index]? = some stage → stage.isOver = true) ∧
      ((race turns).isOver = true →
        ∃ earlier winner later settled, turns = earlier ++ winner :: later ∧
          given? times winner = some settled ∧
          (∀ part, part <+: earlier → (race part).tables = tables) ∧
          (∀ part, part <+: later → (race (earlier ++ winner :: part)).tables =
            tables.replacing (checkpoint.confirmed settled)) ∧
          (race turns).calls[winner]? =
            some (.ended (.ok (checkpoint.confirmed settled)) true) ∧
          (∀ index given, index ≠ winner → given? times index = some given →
            (race turns).calls[index]? =
              some (.ended (repeated root (checkpoint.confirmed settled) settled given) false)) ∧
          (race turns).counters = { counters with mined := counters.mined + 1 }) ∧
      ∀ (conditions : Conditions) (script : List Interruption) (time : Timestamp) (tables : Tables),
        conditions.strikes .update = false → conditions.strikes .commit = false →
          let confirmed := confirm .declared conditions script root time tables
          let ended := Stage.among .declared root (Stage.interferences 2 .nothing script)
            (Stage.start root time) tables
          ended.1 = .ended confirmed.result confirmed.counted ∧
            (confirmed.counted = true → ended.2 = confirmed.tables) := by
  intro race
  have undecided := undecided_start convertible tables root counters
  refine ⟨?_, ?_, fun conditions script time tables calm committed =>
    Stage.confirm_by_statements calm committed time⟩
  · intro index enough
    have nearer := Steady.remaining_run lawful recorded pending (Or.inl undecided) turns index
    have few := remaining_le_three (start root tables counters times) index
    have none : ((start root tables counters times).run .declared root turns).remaining index = 0 := by
      omega
    exact (remaining_eq_zero_iff _ index).mp none
  · intro finished
    rcases undecided.run lawful recorded pending turns with never | split
    · have going := never.not_over called
      exact absurd (going.symm.trans finished) Bool.false_ne_true
    · obtain ⟨earlier, winner, later, settled, split, before, since⟩ := split
      have decided := since later (List.prefix_refl later)
      rw [← split] at decided
      obtain ⟨won, counted⟩ := decided.won_of_over finished
      refine ⟨earlier, winner, later, settled, split, decided.time, ?_, ?_, won, ?_, counted⟩
      · intro part begins
        exact (before part begins).tables
      · intro part begins
        exact (since part begins).tables
      · intro index given different asked
        exact decided.late_of_over finished different asked

def unconfirmed : Checkpoint where
  root := [7]
  lastIdentity := [1]
  lastLeafIndex := 0
  identityCount := 1
  status := .pending
  createdAt := .ofCivil { year := 2026, month := 1, day := 1 }
  minedAt := none

def onePending : Tables where
  identities := [{ leafIndex := 0, commitment := [1] }]
  checkpoints := [unconfirmed]

def threeTimes : List Timestamp :=
  [.ofCivil { year := 2026, month := 2, day := 1 },
   { civil := { year := 2026, month := 3, day := 1, hour := 2 }, offset := some 7200 },
   .ofCivil { year := 2026, month := 4, day := 1 }]

/-- Two calls read the checkpoint, and the second one writes; the first one loses and is refused in its
second pass, and the third one finds the root confirmed. -/
theorem race_settles_once_lostPass :
    let race := (start [7] onePending {} threeTimes).run .declared [7] [0, 1, 1, 0, 2, 0, 1]
    onePending.Lawful ∧ (∀ time ∈ threeTimes, time.toUniversal?.isSome) ∧ race.isOver = true ∧
      (∃ winner settled, given? threeTimes winner = some settled ∧
        race.tables.withRoot? [7] = some (unconfirmed.confirmed settled) ∧
        race.calls[winner]? = some (.ended (.ok (unconfirmed.confirmed settled)) true) ∧
        ∀ index given, index ≠ winner → given? threeTimes index = some given →
          race.calls[index]? =
            some (.ended (repeated [7] (unconfirmed.confirmed settled) settled given) false)) ∧
      race.counters.mined = 1 := by
  intro race
  have lawful : onePending.Lawful := by decide
  have recorded : onePending.withRoot? [7] = some unconfirmed := rfl
  have convertible : ∀ time ∈ threeTimes, time.toUniversal?.isSome := by decide +kernel
  have finished : race.isOver = true := by decide +kernel
  have settles := race_settles_once lawful recorded rfl {} threeTimes (by decide) convertible
    [0, 1, 1, 0, 2, 0, 1]
  obtain ⟨earlier, winner, later, settled, split, asked, _, since, won, others, counted⟩ :=
    settles.2.1 finished
  have tables := since later (List.prefix_refl later)
  rw [← split] at tables
  have mined : race.tables.withRoot? [7] = some (unconfirmed.confirmed settled) := by
    rw [tables]
    exact Tables.withRoot?_replacing recorded (unconfirmed.confirmed settled) rfl
  exact ⟨lawful, convertible, finished, ⟨winner, settled, asked, mined, won, others⟩,
    congrArg Counters.mined counted⟩

end Race

end CommitmentLog.Confirmation
