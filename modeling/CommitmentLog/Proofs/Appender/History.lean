import CommitmentLog.Proofs.Appender.Audit
import CommitmentLog.Proofs.Ledger.Find
import CommitmentLog.Proofs.Tree.Binding

/-!
# The history behind a root

The latest root of a store that passes its audit fixes the whole history, up to collisions of the function
that joins two nodes.  Without a collision two stores with the same latest root have the same padded leaves,
so the commitments of one are a prefix of those of the other.  The root alone does not tell how long the
prefix is, because a commitment may be equal to the padding.  The checkpoints do: the longer store has
recorded the root of the prefix too, and no root is recorded twice.
-/

set_option autoImplicit false

namespace CommitmentLog

variable {shape : Tree.Shape Bytes}

/-! ## What consistent tables are made of -/

namespace Tables

variable {first second : Tables}

theorem identities_eq_of_commitments (firstDense : first.Dense) (secondDense : second.Dense)
    (same : first.commitments = second.commitments) : first.identities = second.identities := by
  rw [firstDense.identities_eq, secondDense.identities_eq, same]

theorem claims_eq_of_commitments (firstConsistent : first.Consistent shape)
    (secondConsistent : second.Consistent shape) (same : first.commitments = second.commitments) :
    first.checkpoints.map (·.claim) = second.checkpoints.map (·.claim) := by
  have sameLength := congrArg List.length same
  rw [commitments_length, commitments_length, ← firstConsistent.counted,
    ← secondConsistent.counted] at sameLength
  apply List.ext_getElem
  · simpa using sameLength
  · intro position inFirst inSecond
    rw [List.length_map] at inFirst inSecond
    obtain ⟨⟨firstCount, firstNamed⟩, firstRoot⟩ := firstConsistent.covers position inFirst
    obtain ⟨⟨secondCount, secondNamed⟩, secondRoot⟩ := secondConsistent.covers position inSecond
    have firstLast := (firstConsistent.attested _ (List.getElem_mem inFirst)).lastLeafIndex
    have secondLast := (secondConsistent.attested _ (List.getElem_mem inSecond)).lastLeafIndex
    rw [same, secondNamed] at firstNamed
    simp only [List.getElem_map, Checkpoint.claim, firstRoot, secondRoot, firstLast, secondLast,
      firstCount, secondCount, same, Option.some.inj firstNamed]

/-! ## The length of the history -/

theorem root_recorded (consistent : first.Consistent shape) (count : Nat) (fromOne : 1 ≤ count)
    (upTo : count ≤ first.identities.length) :
    ∃ checkpoint ∈ first.checkpoints, checkpoint.identityCount = count ∧
      checkpoint.root = shape.rootOver (first.commitments.take count) := by
  have inside : count - 1 < first.checkpoints.length := by
    rw [consistent.counted]
    omega
  obtain ⟨⟨covered, _⟩, root⟩ := consistent.covers (count - 1) inside
  rw [Nat.sub_add_cancel fromOne] at covered root
  exact ⟨_, List.getElem_mem inside, covered, root⟩

/-- A prefix that is neither empty nor the whole ledger has another root than the whole ledger. -/
theorem length_le_of_rootOver_take (lawful : first.Lawful) (consistent : first.Consistent shape)
    (count : Nat) (fromOne : 1 ≤ count)
    (same : shape.rootOver (first.commitments.take count) = shape.rootOver first.commitments) :
    first.identities.length ≤ count := by
  by_contra shorter
  obtain ⟨early, earlyMember, earlyCovers, earlyRoot⟩ :=
    root_recorded consistent count fromOne (by omega)
  obtain ⟨late, lateMember, lateCovers, lateRoot⟩ :=
    root_recorded consistent first.identities.length (by omega) (le_refl _)
  rw [← commitments_length, List.take_length] at lateRoot
  have equal := lawful.eq_of_root earlyMember lateMember (by rw [earlyRoot, lateRoot, same])
  rw [equal, lateCovers] at earlyCovers
  omega

theorem commitments_eq_of_begins {shorter longer : Tables} (lawful : longer.Lawful)
    (consistent : longer.Consistent shape) (present : 1 ≤ shorter.identities.length)
    (shared : shape.rootOver shorter.commitments = shape.rootOver longer.commitments)
    (begins : longer.commitments.take shorter.commitments.length = shorter.commitments) :
    shorter.commitments = longer.commitments := by
  have bound := length_le_of_rootOver_take lawful consistent shorter.commitments.length
    (by rwa [commitments_length]) (by rw [begins, shared])
  rw [← commitments_length] at bound
  rw [← begins, List.take_of_length_le bound]

theorem commitments_eq_of_rootOver (firstLawful : first.Lawful) (secondLawful : second.Lawful)
    (firstConsistent : first.Consistent shape) (secondConsistent : second.Consistent shape)
    (firstPresent : 1 ≤ first.identities.length) (secondPresent : 1 ≤ second.identities.length)
    (shared : shape.rootOver first.commitments = shape.rootOver second.commitments)
    (nothing : shape.rootCollision? first.commitments second.commitments = none) :
    first.commitments = second.commitments := by
  have same := shape.leafAt_eq_of_rootOver_eq _ _ shared nothing
  have firstFits := firstConsistent.fits
  have secondFits := secondConsistent.fits
  rw [← commitments_length] at firstFits secondFits
  rcases Nat.le_total first.commitments.length second.commitments.length with shorter | longer
  · have begins := shape.take_eq_of_leafAt_eq _ _ shorter secondFits same
    exact commitments_eq_of_begins secondLawful secondConsistent firstPresent shared begins
  · have begins := shape.take_eq_of_leafAt_eq _ _ longer firstFits
      fun leaf inside => (same leaf inside).symm
    exact (commitments_eq_of_begins firstLawful firstConsistent secondPresent shared.symm
      begins).symm

end Tables

/-! ## What an audit reports -/

namespace Appender

variable {setup : Setup} {conditions : Conditions} {tables : Tables} {appender : Appender}
  {report : AuditReport} {root : Bytes}

theorem audit_ok (audited : (appender.audit setup conditions tables).1 = .ok report) :
    setup.auditOver conditions tables tables = .ok report := by
  rw [audit_eq] at audited
  split at audited
  · cases audited
  · split at audited
    case h_1 found =>
      rw [found]
      exact audited
    case h_2 => cases audited

theorem runs_of_latestRoot (audited : setup.auditOver conditions tables tables = .ok report)
    (latest : report.latestRoot = some root) : conditions.strikes .hasherCrash = false := by
  obtain ⟨leaves, _, afterLeaves⟩ := bind_ok audited
  obtain ⟨_, passed, reporting⟩ := bind_ok afterLeaves
  cases checkpoints : tables.checkpoints with
  | nil =>
      split at reporting
      · cases reporting
      · rw [← Except.ok.inj reporting, checkpoints] at latest
        cases latest
  | cons first rest =>
      rw [checkpoints, Setup.auditFrom] at passed
      cases crash : conditions.strikes .hasherCrash with
      | false => rfl
      | true =>
          simp only [Setup.auditOne, Setup.extend, crash, if_true] at passed
          split at passed
          · cases passed
          · rename_i extended
            split at extended
            · cases extended
            · split at extended
              · cases extended
              · split at extended <;> cases extended

theorem latestRoot_of_audit (lawful : tables.Lawful)
    (honest : conditions.strikes .hasherStuck = false)
    (audited : (appender.audit setup conditions tables).1 = .ok report)
    (latest : report.latestRoot = some root) :
    tables.Consistent setup.shape ∧ 1 ≤ tables.identities.length ∧
      root = setup.shape.rootOver tables.commitments := by
  have gone := audit_ok audited
  have works : conditions.HasherWorks := ⟨runs_of_latestRoot gone latest, honest⟩
  obtain ⟨leaves, read, _⟩ := bind_ok gone
  rcases Setup.auditOver_cases setup works (Ledger.reads_of_leaves_ok read) lawful with
    ⟨consistent, reported⟩ | ⟨_, _, refused⟩ | ⟨_, _, refusal, _, refused⟩
  · rw [gone] at reported
    rw [Except.ok.inj reported] at latest
    obtain ⟨checkpoint, found, rfl⟩ := Option.map_eq_some_iff.mp latest
    obtain ⟨member, covers⟩ := (Tables.ofPrefix?_eq_some_iff lawful _ checkpoint).mp found
    have attested := (consistent.attested checkpoint member).root
    rw [covers, Int.toNat_natCast, ← Tables.commitments_length, List.take_length] at attested
    have present := List.length_pos_of_mem member
    rw [consistent.counted] at present
    exact ⟨consistent, present, attested⟩
  · rw [gone] at refused
    cases refused
  · rw [gone] at refused
    cases refused

/-- Two stores whose audits report the same root have the same identities and the same checkpoints, up to
their status and times, or the trees over the two ledgers contain a collision. -/
theorem latestRoot_fixes_history (firstSetup secondSetup : Setup)
    (sharedShape : firstSetup.shape = secondSetup.shape) (firstConditions secondConditions : Conditions)
    (first second : Tables) (firstAppender secondAppender : Appender)
    (firstReport secondReport : AuditReport) (root : Bytes)
    (firstLawful : first.Lawful) (secondLawful : second.Lawful)
    (firstHonest : firstConditions.strikes .hasherStuck = false)
    (secondHonest : secondConditions.strikes .hasherStuck = false)
    (firstAudited : (firstAppender.audit firstSetup firstConditions first).1 = .ok firstReport)
    (secondAudited : (secondAppender.audit secondSetup secondConditions second).1 = .ok secondReport)
    (firstLatest : firstReport.latestRoot = some root)
    (secondLatest : secondReport.latestRoot = some root) :
    (first.identities = second.identities ∧
        first.checkpoints.map (·.claim) = second.checkpoints.map (·.claim)) ∨
      ∃ pairs, firstSetup.shape.rootCollision? first.commitments second.commitments = some pairs ∧
        firstSetup.shape.Collide pairs.1 pairs.2 := by
  obtain ⟨firstConsistent, firstPresent, firstRoot⟩ :=
    latestRoot_of_audit firstLawful firstHonest firstAudited firstLatest
  obtain ⟨secondConsistent, secondPresent, secondRoot⟩ :=
    latestRoot_of_audit secondLawful secondHonest secondAudited secondLatest
  rw [← sharedShape] at secondConsistent secondRoot
  have shared : firstSetup.shape.rootOver first.commitments =
      firstSetup.shape.rootOver second.commitments := firstRoot.symm.trans secondRoot
  cases search : firstSetup.shape.rootCollision? first.commitments second.commitments with
  | some pairs =>
      right
      exact ⟨pairs, rfl, Tree.Shape.collide_of_collision? _ _ _ _ _ pairs shared search⟩
  | none =>
      left
      have same := Tables.commitments_eq_of_rootOver firstLawful secondLawful firstConsistent
        secondConsistent firstPresent secondPresent shared search
      exact ⟨Tables.identities_eq_of_commitments firstConsistent.dense secondConsistent.dense same,
        Tables.claims_eq_of_commitments firstConsistent secondConsistent same⟩

def twoShifted : Tables :=
  { identities := [{ leafIndex := 0, commitment := [1, 2] }, { leafIndex := 1, commitment := [] }]
    checkpoints :=
      [{ root := [1, 2, 0], lastIdentity := [1, 2], lastLeafIndex := 0, identityCount := 1
         status := .pending, createdAt := .ofCivil { year := 2026, month := 1, day := 1 }
         minedAt := none },
       { root := [1, 2], lastIdentity := [], lastLeafIndex := 1, identityCount := 2
         status := .pending, createdAt := .ofCivil { year := 2026, month := 1, day := 1 }
         minedAt := none }] }

/-- Joining texts is not free of collisions, and the two stores show one. -/
theorem latestRoot_twoShifted :
    ∃ pairs, twoLeaves.shape.rootCollision? twoAppended.commitments twoShifted.commitments =
      some pairs ∧ twoLeaves.shape.Collide pairs.1 pairs.2 := by
  have fixed := latestRoot_fixes_history twoLeaves twoLeaves rfl {} {} twoAppended twoShifted {} {}
    { identities := 2, checkpoints := 2, latestRoot := some [1, 2] }
    { identities := 2, checkpoints := 2, latestRoot := some [1, 2] } [1, 2]
    (by decide) (by decide) (by decide) (by decide) (by decide +kernel) (by decide +kernel) rfl rfl
  exact fixed.resolve_left fun same => absurd same.1 (by decide)

end Appender

end CommitmentLog
