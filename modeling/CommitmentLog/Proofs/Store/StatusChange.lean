import CommitmentLog.Proofs.Store.Consistent

/-!
# Changing the status of a checkpoint

A change of status gives the chosen checkpoints a status and a time and leaves everything else as it is.  On
lawful tables it is always carried out: neither the identities nor what a checkpoint says of its prefix
changes, and the rules of the schema speak of nothing else.
-/

set_option autoImplicit false

namespace CommitmentLog

/-- A time goes with the status mined and with no other. -/
def Status.Timed (status : Status) (minedAt : Option Timestamp) : Prop :=
  status = .mined ↔ minedAt.isSome

instance (status : Status) (minedAt : Option Timestamp) : Decidable (status.Timed minedAt) :=
  inferInstanceAs (Decidable (_ ↔ _))

namespace Tables

/-- The same identities, and checkpoints that say the same of the same prefixes. -/
structure SameClaims (first second : Tables) : Prop where
  identities : second.identities = first.identities
  claims : second.checkpoints.map (·.claim) = first.checkpoints.map (·.claim)

variable {shape : Tree.Shape Bytes} {first second : Tables}

namespace SameClaims

theorem exists_claim (same : SameClaims first second) {checkpoint : Checkpoint}
    (member : checkpoint ∈ second.checkpoints) :
    ∃ other ∈ first.checkpoints, other.claim = checkpoint.claim := by
  have claimed : checkpoint.claim ∈ second.checkpoints.map (·.claim) :=
    List.mem_map_of_mem member
  rw [same.claims] at claimed
  exact List.mem_map.mp claimed

theorem lawful (same : SameClaims first second) (lawful : first.Lawful) : second.Lawful := by
  have prefixes : (first.checkpoints.map (·.claim)).Pairwise fun before after =>
      before.2.2.2 < after.2.2.2 := List.pairwise_map.mpr lawful.prefixes
  have roots : (first.checkpoints.map (·.claim)).Pairwise fun before after =>
      before.1 ≠ after.1 := List.pairwise_map.mpr lawful.roots
  rw [← same.claims, List.pairwise_map] at prefixes roots
  refine ⟨same.identities ▸ lawful.leaves, same.identities ▸ lawful.leavesFromZero,
    prefixes, roots, ?_⟩
  intro checkpoint member
  obtain ⟨other, otherMember, claimed⟩ := same.exists_claim member
  simp only [Checkpoint.claim, Prod.mk.injEq] at claimed
  have lastLeaf := lawful.lastLeaves other otherMember
  omega

theorem consistent (same : SameClaims first second) (consistent : first.Consistent shape) :
    second.Consistent shape := by
  have prefixes := consistent.prefixes
  have sameLength := congrArg List.length same.claims
  have counts := congrArg (List.map fun claim => claim.2.2.2) same.claims
  simp only [List.length_map] at sameLength
  simp only [List.map_map, Function.comp_def, Checkpoint.claim] at counts
  have commitments : second.commitments = first.commitments := by
    rw [Tables.commitments, same.identities, Tables.commitments]
  refine ⟨?_, same.identities ▸ consistent.fits, ?_, counts ▸ prefixes, ?_⟩
  · rw [Dense, same.identities]
    exact consistent.dense
  · rw [sameLength, same.identities]
    exact consistent.counted
  · intro checkpoint member
    obtain ⟨other, otherMember, claimed⟩ := same.exists_claim member
    have attested := consistent.attested other otherMember
    simp only [Checkpoint.claim, Prod.mk.injEq] at claimed
    obtain ⟨root, lastIdentity, lastLeaf, count⟩ := claimed
    rw [commitments]
    exact ⟨lastLeaf ▸ count ▸ attested.lastLeafIndex, lastIdentity ▸ count ▸ attested.lastIdentity,
      root ▸ count ▸ attested.root⟩

end SameClaims

end Tables

namespace Store

variable {Column Row : Type}

/-! ## Updates -/

theorem arrange_of_ordered (order : Row → Int) (rows : List Row)
    (ordered : rows.Pairwise fun first second => order first < order second) :
    arrange order rows = rows := by
  induction rows with
  | nil => rfl
  | cons first rest inductionHypothesis =>
      obtain ⟨least, restOrdered⟩ := List.pairwise_cons.mp ordered
      have settled : arrange order rest = rest := inductionHypothesis restOrdered
      rw [arrange, List.foldr_cons, ← arrange, settled]
      cases rest with
      | nil => rfl
      | cons second rest => rw [place, if_pos (least second (by simp))]

theorem Change.run_update [DecidableEq Column] (layout : Layout Column Row)
    (definition : Definition Column) (rows : List Row) (selector assignment : Assignment Column)
    (change : Row → Row)
    (read : ∀ row, layout.ofCells? (Definition.assign assignment (layout.cells row)) =
      some (change row)) :
    let chosen := fun row => selects selector (layout.cells row)
    let updated := rows.map fun row => if chosen row then change row else row
    (Change.update selector assignment).run layout definition rows =
      if admitted layout definition updated then
        some (arrange layout.order updated, rows.countP chosen)
      else none := by
  intro chosen updated
  have each : (fun row => if selects selector (layout.cells row) then
      layout.ofCells? (Definition.assign assignment (layout.cells row)) else some row) =
        fun row => pure (if chosen row then change row else row) := by
    funext row
    rw [read]
    by_cases here : selects selector (layout.cells row) <;> simp [chosen, here]
  simp only [Change.run, each, List.mapM_pure]
  rfl

namespace Statement

def chooses (root : Bytes) (selector : Assignment CheckpointColumn) (checkpoint : Checkpoint) : Bool :=
  selects ((.root, .bytes root) :: selector) (checkpointCells checkpoint)

def withStatusSet (root : Bytes) (selector : Assignment CheckpointColumn) (status : Status)
    (minedAt : Option Timestamp) (tables : Tables) : Tables :=
  { tables with
    checkpoints := tables.checkpoints.map fun checkpoint =>
      if chooses root selector checkpoint then { checkpoint with status, minedAt } else checkpoint }

variable (root : Bytes) (selector : Assignment CheckpointColumn) (status : Status)
  (minedAt : Option Timestamp) {tables : Tables}

theorem sameClaims_withStatusSet (tables : Tables) :
    tables.SameClaims (withStatusSet root selector status minedAt tables) := by
  refine ⟨rfl, ?_⟩
  simp only [withStatusSet, List.map_map, List.map_inj_left, Function.comp]
  intro checkpoint _
  split <;> rfl

theorem run_setStatus (lawful : tables.Lawful) :
    (setStatus root selector status minedAt).run .declared tables =
      some (withStatusSet root selector status minedAt tables,
        tables.checkpoints.countP (chooses root selector)) := by
  have changed := (sameClaims_withStatusSet root selector status minedAt tables).lawful lawful
  have read : ∀ checkpoint : Checkpoint,
      checkpointOfCells? (Definition.assign
        [(.status, .text status.text), (.minedAt, (minedAt.map Cell.time).getD .null)]
        (checkpointCells checkpoint)) = some { checkpoint with status, minedAt } := by
    intro checkpoint
    rw [← checkpointOfCells?_cells]
    congr 1
    funext column
    cases column <;> rfl
  have updated := Change.run_update checkpointLayout Schema.declared.checkpoints tables.checkpoints
    ((.root, .bytes root) :: selector)
    [(.status, .text status.text), (.minedAt, (minedAt.map Cell.time).getD .null)]
    (fun checkpoint => { checkpoint with status, minedAt }) read
  have admits := ((Tables.lawful_iff_admitted _).mp changed).2.1
  have ordered := arrange_of_ordered Checkpoint.identityCount _ changed.prefixes
  have ran : (setStatus root selector status minedAt).runUnreferenced .declared tables =
      some (withStatusSet root selector status minedAt tables,
        tables.checkpoints.countP (chooses root selector)) := by
    have arranged := congrArg (fun rows =>
      some (rows, tables.checkpoints.countP (chooses root selector))) ordered
    have carried := (updated.trans (if_pos admits)).trans arranged
    rw [setStatus, runUnreferenced, carried]
    rfl
  have keeps : (setStatus root selector status minedAt).keepsReferences .declared tables
      (withStatusSet root selector status minedAt tables) = true := rfl
  rw [run, ran]
  exact if_pos keeps

end Statement

end Store

end CommitmentLog
