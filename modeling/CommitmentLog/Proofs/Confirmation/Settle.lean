import CommitmentLog.Confirmation
import CommitmentLog.Proofs.Store.StatusChange
import CommitmentLog.Proofs.Time.Instant

/-!
# Single statements of a confirmation

What each statement does on lawful tables that hold the checkpoint.  Reading a pending checkpoint makes the
change due; reading a mined one never does, and only compares the times.  The conditional write replaces the
checkpoint if its status is the one that was read, and otherwise leaves the tables alone.
-/

set_option autoImplicit false

namespace CommitmentLog

open Store

def Checkpoint.confirmed (checkpoint : Checkpoint) (given : Civil) : Checkpoint :=
  { checkpoint with status := .mined, minedAt := some (.ofCivil given) }

def Tables.replacing (tables : Tables) (checkpoint : Checkpoint) : Tables :=
  { tables with
    checkpoints := tables.checkpoints.map fun other =>
      if other.root = checkpoint.root then checkpoint else other }

variable {tables : Tables} {root : Bytes} {checkpoint : Checkpoint}

namespace Tables

theorem root_of_withRoot? (recorded : tables.withRoot? root = some checkpoint) :
    checkpoint.root = root := by
  simpa using List.find?_some recorded

theorem withRoot?_replacing (recorded : tables.withRoot? root = some checkpoint)
    (other : Checkpoint) (same : other.root = root) :
    (tables.replacing other).withRoot? root = some other := by
  have named := root_of_withRoot? recorded
  have search : ∀ row : Checkpoint,
      ((if row.root = root then other else row).root = root ↔ row.root = root) := by
    intro row
    by_cases here : row.root = root <;> simp [here, same]
  rw [withRoot?] at recorded
  simp only [withRoot?, replacing, same, List.find?_map, Function.comp_def, search, recorded,
    Option.map_some, named, if_true]

end Tables

namespace Confirmation

theorem chooses_iff (prior : Status) (row : Checkpoint) :
    Statement.chooses root [(.status, .text prior.text)] row = true ↔
      row.root = root ∧ row.status = prior := by
  have readBack : row.status.text = prior.text ↔ row.status = prior := by
    constructor
    · intro same
      have read := congrArg Status.ofText? same
      simpa [Status.ofText?_text] using read
    · intro same
      rw [same]
  simp [Statement.chooses, selects, checkpointCells, readBack]

theorem settle_of_status (lawful : tables.Lawful)
    (recorded : tables.withRoot? root = some checkpoint) (given : Civil) :
    settle .declared tables root checkpoint.status .mined (some given) =
      some (tables.replacing (checkpoint.confirmed given), 1) := by
  have named := Tables.root_of_withRoot? recorded
  have member : checkpoint ∈ tables.checkpoints := List.mem_of_find?_eq_some recorded
  have chosen : ∀ row ∈ tables.checkpoints,
      (Statement.chooses root [(.status, .text checkpoint.status.text)] row = true ↔
        row = checkpoint) := by
    intro row rowMember
    rw [chooses_iff]
    constructor
    · intro ⟨sameRoot, _⟩
      exact lawful.eq_of_root rowMember member (sameRoot.trans named.symm)
    · intro same
      rw [same]
      exact ⟨named, rfl⟩
  have distinct : tables.checkpoints.Nodup :=
    lawful.roots.imp fun differ same => differ (congrArg _ same)
  have once : tables.checkpoints.countP
      (Statement.chooses root [(.status, .text checkpoint.status.text)]) = 1 := by
    rw [← List.count_eq_one_of_mem distinct member, List.count]
    apply List.countP_congr
    intro row rowMember
    rw [chosen row rowMember, beq_iff_eq]
  rw [settle, Statement.run_setStatus _ _ _ _ lawful, once]
  have sameRows : ∀ row ∈ tables.checkpoints,
      (if Statement.chooses root [(.status, .text checkpoint.status.text)] row then
        { row with status := .mined, minedAt := some (.ofCivil given) } else row) =
      if row.root = root then checkpoint.confirmed given else row := by
    intro row rowMember
    by_cases here : row.root = root
    · have same := lawful.eq_of_root rowMember member (here.trans named.symm)
      rw [if_pos ((chosen row rowMember).mpr same), if_pos here, same]
      rfl
    · have other : row ≠ checkpoint := fun same => here (same ▸ named)
      rw [if_neg (fun picked => other ((chosen row rowMember).mp picked)), if_neg here]
  have sameTables : Statement.withStatusSet root [(.status, .text checkpoint.status.text)] .mined
      ((some given).map Timestamp.ofCivil) tables = tables.replacing (checkpoint.confirmed given) := by
    have rooted : (checkpoint.confirmed given).root = root := named
    rw [Statement.withStatusSet, Tables.replacing, rooted]
    exact congrArg _ (List.map_congr_left sameRows)
  rw [sameTables]

theorem settle_of_unchosen (lawful : tables.Lawful) {prior : Status}
    (unchosen : ∀ row ∈ tables.checkpoints, ¬ (row.root = root ∧ row.status = prior)) (given : Civil) :
    settle .declared tables root prior .mined (some given) = some (tables, 0) := by
  have none : ∀ row ∈ tables.checkpoints,
      ¬ Statement.chooses root [(.status, .text prior.text)] row = true :=
    fun row member picked => unchosen row member ((chooses_iff prior row).mp picked)
  have untouched : tables.checkpoints.countP
      (Statement.chooses root [(.status, .text prior.text)]) = 0 :=
    List.countP_eq_zero.mpr none
  have sameTables : Statement.withStatusSet root [(.status, .text prior.text)] .mined
      ((some given).map Timestamp.ofCivil) tables = tables := by
    have kept := List.map_congr_left (fun row member => if_neg (none row member))
      (g := id) (f := fun row => if Statement.chooses root [(.status, .text prior.text)] row then
        { row with status := .mined, minedAt := (some given).map Timestamp.ofCivil } else row)
    rw [Statement.withStatusSet, kept, List.map_id]
  rw [settle, Statement.run_setStatus _ _ _ _ lawful, untouched, sameTables]

theorem settle_of_ne (lawful : tables.Lawful) (recorded : tables.withRoot? root = some checkpoint)
    {prior : Status} (gone : checkpoint.status ≠ prior) (given : Civil) :
    settle .declared tables root prior .mined (some given) = some (tables, 0) := by
  have named := Tables.root_of_withRoot? recorded
  have member : checkpoint ∈ tables.checkpoints := List.mem_of_find?_eq_some recorded
  refine settle_of_unchosen lawful ?_ given
  intro row rowMember ⟨rowNamed, status⟩
  have same := lawful.eq_of_root rowMember member (rowNamed.trans named.symm)
  exact gone (same ▸ status)

theorem settle_of_absent (lawful : tables.Lawful) (absent : tables.withRoot? root = none)
    (prior : Status) (given : Civil) :
    settle .declared tables root prior .mined (some given) = some (tables, 0) := by
  refine settle_of_unchosen lawful ?_ given
  intro row member ⟨named, _⟩
  have other := List.find?_eq_none.mp absent row member
  exact other (decide_eq_true named)

theorem lawful_replacing (lawful : tables.Lawful)
    (recorded : tables.withRoot? root = some checkpoint) (given : Civil) :
    (tables.replacing (checkpoint.confirmed given)).Lawful := by
  have written := settle_of_status lawful recorded given
  rw [settle, Statement.run_setStatus _ _ _ _ lawful, Option.some.injEq, Prod.mk.injEq] at written
  rw [← written.1]
  exact (Statement.sameClaims_withStatusSet _ _ _ _ tables).lawful lawful

/-! ## Reading and checking -/

theorem examine_of_recorded (recorded : tables.withRoot? root = some checkpoint) (given : Civil) :
    examine tables root .mined (some given) =
      (checkTransition root checkpoint.status checkpoint.minedAt .mined
        (some (.ofCivil given))).map fun due => (checkpoint, due) := by
  have named := Tables.root_of_withRoot? recorded
  have read : Checkpoints.get tables root = .ok checkpoint := by
    rw [Checkpoints.get, recorded]
  rw [examine, read, ← named]
  rfl

theorem examine_of_pending (recorded : tables.withRoot? root = some checkpoint)
    (pending : checkpoint.status = .pending) (given : Civil) :
    examine tables root .mined (some given) = .ok (checkpoint, true) := by
  rw [examine_of_recorded recorded, pending]
  rfl

-- The comparison is a hypothesis here: unfolding it at civil times would count microseconds.
theorem checkTransition_of_mined {recorded given : Timestamp} {earlier : Bool}
    (compared : given.isBefore? recorded = some earlier) :
    checkTransition root .mined (some recorded) .mined (some given) =
      if earlier then .error (.refused (.earlierTime root recorded given)) else .ok false := by
  cases earlier <;> simp [checkTransition, compared]

/-- What a confirmation comes to that finds the root confirmed already. -/
def repeated (root : Bytes) (recorded : Checkpoint) (settled given : Civil) :
    Except Failure Checkpoint :=
  if given.elapsed < settled.elapsed then
    .error (.refused (.earlierTime root (.ofCivil settled) (.ofCivil given)))
  else .ok recorded

theorem examine_of_confirmed {settled : Civil}
    (recorded : tables.withRoot? root = some (checkpoint.confirmed settled)) (given : Civil) :
    examine tables root .mined (some given) =
      (repeated root (checkpoint.confirmed settled) settled given).map fun row => (row, false) := by
  have checked : checkTransition root .mined (some (.ofCivil settled)) .mined
      (some (.ofCivil given)) = _ := checkTransition_of_mined (Timestamp.isBefore?_ofCivil given settled)
  have confirmed : (checkpoint.confirmed settled).status = .mined ∧
      (checkpoint.confirmed settled).minedAt = some (.ofCivil settled) := ⟨rfl, rfl⟩
  rw [examine_of_recorded recorded, confirmed.1, confirmed.2, checked, repeated]
  by_cases earlier : given.elapsed < settled.elapsed
  · rw [decide_eq_true earlier, if_pos rfl, if_pos earlier]
    rfl
  · rw [decide_eq_false earlier, if_neg Bool.false_ne_true, if_neg earlier]
    rfl

/-! ## Given times -/

section GivenTimes

variable (schema : Schema) (conditions : Conditions) (script : List Interruption) (root : Bytes)
  {minedAt : Timestamp}

theorem applyStatus_of_universal {given : Civil}
    (converted : Checkpoints.universal minedAt = .ok given) (tables : Tables) :
    applyStatus schema conditions script root .mined (some minedAt) tables =
      passes schema conditions root .mined (some given) 2 .nothing script tables := by
  have times : (some minedAt).mapM Checkpoints.universal = .ok (some given) := by
    rw [Option.mapM_some, converted]
    rfl
  rw [applyStatus, times]

theorem applyStatus_of_not_universal {failure : Failure}
    (unconverted : Checkpoints.universal minedAt = .error failure) (tables : Tables) :
    applyStatus schema conditions script root .mined (some minedAt) tables =
      (.error failure, tables) := by
  have times : (some minedAt).mapM Checkpoints.universal = .error failure := by
    rw [Option.mapM_some, unconverted]
    rfl
  rw [applyStatus, times]

end GivenTimes

end Confirmation

end CommitmentLog
