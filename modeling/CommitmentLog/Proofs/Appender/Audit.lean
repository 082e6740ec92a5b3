import CommitmentLog.Appender.Audit
import CommitmentLog.Proofs.Appender.Lock
import CommitmentLog.Proofs.Appender.Trees
import CommitmentLog.Proofs.Store.Consistent
import Mathlib.Tactic.IntervalCases

/-!
# What an audit accepts

An audit accepts exactly the consistent tables.  It goes through the checkpoints in the order of their
prefixes and keeps the tree over the prefix that it has seen, so a checkpoint passes if it matches the
prefix that ends at its position.  The audit comes to one of three ends: all checkpoints match; a matching
row of checkpoints fills the tree and one more names its leaf; or some checkpoint does not match.
-/

set_option autoImplicit false

namespace CommitmentLog

variable {shape : Tree.Shape Bytes} {leaves : List Bytes}

/-! ## Matching -/

/-- The tree has room for the leaf at a position, and a checkpoint covers the prefix that ends there. -/
def Checkpoint.Matches (shape : Tree.Shape Bytes) (leaves : List Bytes) (position : Nat)
    (checkpoint : Checkpoint) : Prop :=
  position < shape.capacity ∧ checkpoint.Covers shape leaves position

def MatchFrom (shape : Tree.Shape Bytes) (leaves : List Bytes) (start : Nat)
    (checkpoints : List Checkpoint) : Prop :=
  ∀ (offset : Nat) (checkpoint : Checkpoint), checkpoints[offset]? = some checkpoint →
    checkpoint.Matches shape leaves (start + offset)

/-- Checkpoints match from a start until the tree is full, and one more names its leaf. -/
def OverrunFrom (shape : Tree.Shape Bytes) (leaves : List Bytes) (start : Nat)
    (checkpoints : List Checkpoint) : Prop :=
  (∀ offset, start + offset < shape.capacity → ∃ checkpoint,
      checkpoints[offset]? = some checkpoint ∧ checkpoint.Matches shape leaves (start + offset)) ∧
    ∃ checkpoint, checkpoints[shape.capacity - start]? = some checkpoint ∧
      checkpoint.NamesLeaf leaves shape.capacity

theorem matchFrom_cons (start : Nat) (first : Checkpoint) (rest : List Checkpoint) :
    MatchFrom shape leaves start (first :: rest) ↔
      first.Matches shape leaves start ∧ MatchFrom shape leaves (start + 1) rest := by
  constructor
  · intro all
    refine ⟨all 0 first rfl, ?_⟩
    intro offset checkpoint here
    rw [Nat.add_right_comm]
    exact all (offset + 1) checkpoint here
  · intro both offset checkpoint here
    obtain ⟨head, tail⟩ := both
    cases offset with
    | zero =>
        cases here
        exact head
    | succ offset =>
        have later := tail offset checkpoint here
        rwa [Nat.add_right_comm] at later

theorem overrunFrom_cons (start : Nat) (within : start ≤ shape.capacity) (first : Checkpoint)
    (rest : List Checkpoint) :
    OverrunFrom shape leaves start (first :: rest) ↔
      (shape.capacity ≤ start ∧ first.NamesLeaf leaves start) ∨
        (first.Matches shape leaves start ∧ OverrunFrom shape leaves (start + 1) rest) := by
  rcases Nat.lt_or_ge start shape.capacity with room | full
  · have gap : shape.capacity - start = shape.capacity - (start + 1) + 1 := by omega
    rw [OverrunFrom, gap, OverrunFrom, List.getElem?_cons_succ]
    constructor
    · intro overrun
      obtain ⟨filled, last⟩ := overrun
      obtain ⟨checkpoint, here, head⟩ := filled 0 room
      cases here
      refine Or.inr ⟨head, ?_, last⟩
      intro offset inside
      rw [Nat.add_right_comm] at inside ⊢
      exact filled (offset + 1) inside
    · intro either
      rcases either with ⟨full, _⟩ | ⟨head, filled, last⟩
      · omega
      · refine ⟨?_, last⟩
        intro offset inside
        cases offset with
        | zero => exact ⟨first, rfl, head⟩
        | succ offset =>
            have later := filled offset (by omega)
            rwa [Nat.add_right_comm] at later
  · have same : start = shape.capacity := by omega
    rw [OverrunFrom, same, Nat.sub_self, List.getElem?_cons_zero]
    constructor
    · intro overrun
      obtain ⟨_, checkpoint, here, named⟩ := overrun
      cases here
      exact Or.inl ⟨le_refl _, named⟩
    · intro either
      rcases either with ⟨_, named⟩ | ⟨⟨room, _⟩, _⟩
      · exact ⟨fun offset inside => by omega, first, rfl, named⟩
      · omega

/-! ## Going through the checkpoints -/

namespace Setup

variable {setup : Setup} {conditions : Conditions}

theorem auditOne_cases (setup : Setup) (works : conditions.HasherWorks) (leaves : List Bytes) (position : Nat)
    (checkpoint : Checkpoint) :
    let outcome := setup.auditOne conditions leaves (position + 1)
      (setup.shape.stateOver (leaves.take position)) checkpoint
    (checkpoint.Matches setup.shape leaves position ∧
        outcome = .ok (setup.shape.stateOver (leaves.take (position + 1)))) ∨
      (setup.shape.capacity ≤ position ∧ checkpoint.NamesLeaf leaves position ∧
        outcome = .error (.refused (.treeFull setup.shape.depth))) ∨
      (¬checkpoint.Matches setup.shape leaves position ∧
        ¬(setup.shape.capacity ≤ position ∧ checkpoint.NamesLeaf leaves position) ∧
        ∃ refusal, refusal.category = .integrityViolation ∧ outcome = .error (.refused refusal)) := by
  intro outcome
  by_cases covers : checkpoint.identityCount = (position + 1 : Nat)
  · cases present : leaves[position]? with
    | none =>
        right; right
        refine ⟨?_, ?_, .beyondLedger checkpoint.identityCount, rfl, ?_⟩
        · intro matching
          obtain ⟨_, ⟨_, named⟩, _⟩ := matching
          rw [present] at named
          cases named
        · intro overrun
          obtain ⟨_, _, named⟩ := overrun
          rw [present] at named
          cases named
        · simp [outcome, auditOne, covers, present]
    | some leaf =>
        by_cases names : checkpoint.lastIdentity = leaf
        · have named : checkpoint.NamesLeaf leaves position := ⟨covers, by rw [present, names]⟩
          obtain ⟨inside, here⟩ := List.getElem?_eq_some_iff.mp present
          have known : (leaves.take position).length = position := by
            rw [List.length_take]
            omega
          have grown : leaves.take position ++ [leaf] = leaves.take (position + 1) := by
            rw [← here, List.take_append_getElem]
          rcases Nat.lt_or_ge position setup.shape.capacity with room | full
          · have extended := extend_of_room setup works (leaves.take position) leaf
              (known.symm ▸ room)
            rw [grown] at extended
            by_cases agrees : checkpoint.root = setup.shape.rootOver (leaves.take (position + 1))
            · left
              refine ⟨⟨room, named, agrees⟩, ?_⟩
              simp [outcome, auditOne, covers, present, names, extended, agrees]
            · right; right
              refine ⟨fun matching => agrees matching.2.2, fun overrun => by omega,
                .prefixMismatch checkpoint.identityCount checkpoint.root
                  (setup.shape.rootOver (leaves.take (position + 1))), rfl, ?_⟩
              simp [outcome, auditOne, covers, present, names, extended, Ne.symm agrees]
          · right; left
            refine ⟨full, named, ?_⟩
            have refused := extend_of_full setup works (leaves.take position) leaf
              (known.symm ▸ full)
            simp [outcome, auditOne, covers, present, names, refused]
        · right; right
          refine ⟨?_, ?_, .wrongLastIdentity checkpoint.root, rfl, ?_⟩
          · intro matching
            obtain ⟨_, ⟨_, named⟩, _⟩ := matching
            rw [present] at named
            exact names (Option.some.inj named).symm
          · intro overrun
            obtain ⟨_, _, named⟩ := overrun
            rw [present] at named
            exact names (Option.some.inj named).symm
          · simp [outcome, auditOne, covers, present, names]
  · right; right
    refine ⟨fun matching => covers matching.2.1.1, fun overrun => covers overrun.2.1,
      .missingPrefix (position + 1), rfl, ?_⟩
    simp only [outcome, auditOne, if_pos covers]
    rfl

/-- The tree over a prefix is carried along, so the audit of the checkpoints behind it comes to one of
three ends. -/
theorem auditFrom_cases (setup : Setup) (works : conditions.HasherWorks) (leaves : List Bytes) (start : Nat)
    (checkpoints : List Checkpoint) (within : start ≤ setup.shape.capacity) :
    let outcome := setup.auditFrom conditions leaves (start + 1)
      (setup.shape.stateOver (leaves.take start)) checkpoints
    (MatchFrom setup.shape leaves start checkpoints ∧ outcome = .ok ()) ∨
      (OverrunFrom setup.shape leaves start checkpoints ∧
        outcome = .error (.refused (.treeFull setup.shape.depth))) ∨
      (¬MatchFrom setup.shape leaves start checkpoints ∧
        ¬OverrunFrom setup.shape leaves start checkpoints ∧
        ∃ refusal, refusal.category = .integrityViolation ∧ outcome = .error (.refused refusal)) := by
  induction checkpoints generalizing start with
  | nil =>
      refine Or.inl ⟨?_, rfl⟩
      intro offset checkpoint here
      cases here
  | cons first rest inductionHypothesis =>
      rw [matchFrom_cons, overrunFrom_cons start within]
      simp only [auditFrom]
      rcases auditOne_cases setup works leaves start first with
        ⟨head, passed⟩ | ⟨full, named, refused⟩ | ⟨noMatch, noOverrun, refusal, violation, refused⟩
      · rw [passed]
        rcases inductionHypothesis (start + 1) head.1 with
          ⟨tail, accepted⟩ | ⟨tail, refused⟩ | ⟨noMatch, noOverrun, refusal, violation, refused⟩
        · exact Or.inl ⟨⟨head, tail⟩, accepted⟩
        · exact Or.inr (Or.inl ⟨Or.inr ⟨head, tail⟩, refused⟩)
        · refine Or.inr (Or.inr ⟨fun both => noMatch both.2, ?_, refusal, violation, refused⟩)
          intro overrun
          rcases overrun with ⟨full, _⟩ | ⟨_, tail⟩
          · exact absurd head.1 (Nat.not_lt.mpr full)
          · exact noOverrun tail
      · rw [refused]
        exact Or.inr (Or.inl ⟨Or.inl ⟨full, named⟩, rfl⟩)
      · rw [refused]
        refine Or.inr (Or.inr ⟨fun both => noMatch both.1, ?_, refusal, violation, rfl⟩)
        intro either
        rcases either with overrun | ⟨head, _⟩
        · exact noOverrun overrun
        · exact noMatch head

end Setup

/-! ## Tables -/

namespace Tables

variable {tables : Tables}

structure Overfull (shape : Tree.Shape Bytes) (tables : Tables) : Prop where
  dense : tables.Dense
  filled : ∀ position < shape.capacity, ∃ checkpoint,
    tables.checkpoints[position]? = some checkpoint ∧
      checkpoint.Matches shape tables.commitments position
  beyond : ∃ checkpoint, tables.checkpoints[shape.capacity]? = some checkpoint ∧
    checkpoint.NamesLeaf tables.commitments shape.capacity

theorem overfull_iff : tables.Overfull shape ↔
    tables.Dense ∧ OverrunFrom shape tables.commitments 0 tables.checkpoints := by
  rw [OverrunFrom]
  simp only [Nat.zero_add, Nat.sub_zero]
  exact ⟨fun ⟨dense, filled, beyond⟩ => ⟨dense, filled, beyond⟩,
    fun ⟨dense, filled, beyond⟩ => ⟨dense, filled, beyond⟩⟩

/-- A checkpoint at the capacity does not match, so matching checkpoints fit into the tree. -/
theorem length_le_of_matchFrom {checkpoints : List Checkpoint}
    (matching : MatchFrom shape leaves 0 checkpoints) : checkpoints.length ≤ shape.capacity := by
  by_contra tooMany
  have inside : shape.capacity < checkpoints.length := by omega
  have last := matching shape.capacity _ (List.getElem?_eq_getElem inside)
  have room := last.1
  omega

theorem consistent_iff_matchFrom (lawful : tables.Lawful) :
    tables.Consistent shape ↔
      tables.Dense ∧ MatchFrom shape tables.commitments 0 tables.checkpoints ∧
        tables.checkpoints.length = tables.identities.length := by
  rw [consistent_iff_covers lawful]
  constructor
  · intro each
    obtain ⟨dense, fits, counted, covers⟩ := each
    refine ⟨dense, ?_, counted⟩
    intro position checkpoint here
    obtain ⟨inside, same⟩ := List.getElem?_eq_some_iff.mp here
    rw [Nat.zero_add, ← same]
    exact ⟨lt_of_lt_of_le (counted ▸ inside) fits, covers position inside⟩
  · intro each
    obtain ⟨dense, matching, counted⟩ := each
    refine ⟨dense, counted ▸ length_le_of_matchFrom matching, counted, ?_⟩
    intro position inside
    have here := matching position _ (List.getElem?_eq_getElem inside)
    rw [Nat.zero_add] at here
    exact here.2

theorem getLast?_eq_ofPrefix? (lawful : tables.Lawful) (consistent : tables.Consistent shape) :
    tables.checkpoints.getLast? = tables.ofPrefix? tables.identities.length := by
  rw [← consistent.counted]
  cases last : tables.checkpoints.getLast? with
  | none =>
      rw [List.getLast?_eq_none_iff] at last
      simp [ofPrefix?, last]
  | some checkpoint =>
      have here := last
      rw [List.getLast?_eq_getElem?] at here
      obtain ⟨inside, same⟩ := List.getElem?_eq_some_iff.mp here
      have covered := (consistent.covers _ inside).1.1
      rw [same, Nat.sub_add_cancel (by omega)] at covered
      exact ((ofPrefix?_eq_some_iff lawful _ checkpoint).mpr
        ⟨List.mem_of_getElem? here, covered⟩).symm

theorem not_consistent_of_overfull (overfull : tables.Overfull shape) :
    ¬tables.Consistent shape := by
  intro consistent
  obtain ⟨checkpoint, here, _⟩ := overfull.beyond
  obtain ⟨inside, _⟩ := List.getElem?_eq_some_iff.mp here
  have fits := consistent.fits
  have counted := consistent.counted
  omega

end Tables

/-! ## The whole audit -/

namespace Setup

variable {setup : Setup} {conditions : Conditions} {tables : Tables}

theorem auditOver_cases (setup : Setup) (works : conditions.HasherWorks)
    (reads : conditions.strikes .leaves = false) (lawful : tables.Lawful) :
    let outcome := setup.auditOver conditions tables tables
    (tables.Consistent setup.shape ∧
        outcome = .ok
          { identities := tables.identities.length, checkpoints := tables.identities.length
            latestRoot := (tables.ofPrefix? tables.identities.length).map (·.root) }) ∨
      (¬tables.Consistent setup.shape ∧ tables.Overfull setup.shape ∧
        outcome = .error (.refused (.treeFull setup.shape.depth))) ∨
      (¬tables.Consistent setup.shape ∧ ¬tables.Overfull setup.shape ∧
        ∃ refusal, refusal.category = .integrityViolation ∧ outcome = .error (.refused refusal)) := by
  intro outcome
  by_cases dense : tables.Dense
  · have read := Ledger.leaves_of_dense reads dense
    rcases auditFrom_cases setup works tables.commitments 0 tables.checkpoints
        (Nat.zero_le _) with
      ⟨matching, passed⟩ | ⟨overrun, refused⟩ | ⟨noMatch, noOverrun, refusal, violation, refused⟩
    · rw [List.take_zero, ← Tree.Shape.empty_eq] at passed
      by_cases counted : tables.checkpoints.length = tables.identities.length
      · have consistent := (Tables.consistent_iff_matchFrom lawful).mpr ⟨dense, matching, counted⟩
        refine Or.inl ⟨consistent, ?_⟩
        rw [← Tables.getLast?_eq_ofPrefix? lawful consistent]
        simp [outcome, auditOver, read, passed, counted, Tables.commitments_length, bind,
          Except.bind]
      · have inconsistent : ¬tables.Consistent setup.shape :=
          fun consistent => counted consistent.counted
        refine Or.inr (Or.inr ⟨inconsistent, ?_, .checkpointCountMismatch
          tables.identities.length tables.checkpoints.length, rfl, ?_⟩)
        · intro overfull
          obtain ⟨checkpoint, here, _⟩ := overfull.beyond
          have room := (matching _ checkpoint here).1
          omega
        · simp [outcome, auditOver, read, passed, counted, Tables.commitments_length, bind,
            Except.bind]
    · have overfull := Tables.overfull_iff.mpr ⟨dense, overrun⟩
      rw [List.take_zero, ← Tree.Shape.empty_eq] at refused
      refine Or.inr (Or.inl ⟨Tables.not_consistent_of_overfull overfull, overfull, ?_⟩)
      simp [outcome, auditOver, read, refused, bind, Except.bind]
    · rw [List.take_zero, ← Tree.Shape.empty_eq] at refused
      refine Or.inr (Or.inr ⟨?_, ?_, refusal, violation, ?_⟩)
      · intro consistent
        exact noMatch ((Tables.consistent_iff_matchFrom lawful).mp consistent).2.1
      · intro overfull
        exact noOverrun (Tables.overfull_iff.mp overfull).2
      · simp [outcome, auditOver, read, refused, bind, Except.bind]
  · obtain ⟨expected, found, refused⟩ := Ledger.leaves_of_not_dense reads dense
    refine Or.inr (Or.inr ⟨fun consistent => dense consistent.dense,
      fun overfull => dense overfull.dense, .leafGap expected found, rfl, ?_⟩)
    simp [outcome, auditOver, refused, bind, Except.bind]

end Setup

namespace Appender

/-- An audit that gets the lock and can read accepts the consistent tables and no others.  A violation of
integrity stops the appender; only where matching checkpoints fill the tree and one more names its leaf the
audit ends at the full tree and leaves the appender as it was. -/
theorem audit_accepts_exactly_consistent (setup : Setup) (conditions : Conditions) (tables : Tables)
    (appender : Appender) (lawful : tables.Lawful) (free : appender.enter setup = .ok ())
    (reads : conditions.strikes .leaves = false) (works : conditions.HasherWorks) :
    let size := tables.identities.length
    let outcome := appender.audit setup conditions tables
    ((∃ report, outcome.1 = .ok report) ↔
        tables.Dense ∧ size ≤ 2 ^ setup.shape.depth ∧ tables.checkpoints.length = size ∧
          ∀ count, 1 ≤ count → count ≤ size →
            ∃ checkpoint, tables.ofPrefix? count = some checkpoint ∧
              tables.commitments[count - 1]? = some checkpoint.lastIdentity ∧
              checkpoint.root = setup.shape.rootOver (tables.commitments.take count)) ∧
      match outcome.1 with
      | .ok report =>
          report =
            { identities := size, checkpoints := size
              latestRoot := (tables.ofPrefix? size).map (·.root) } ∧
            outcome.2 = appender
      | .error failure =>
          (tables.Overfull setup.shape ∧ failure = .refused (.treeFull setup.shape.depth) ∧
              outcome.2 = appender) ∨
            ¬tables.Overfull setup.shape ∧
              ∃ refusal, failure = .refused refusal ∧ refusal.category = .integrityViolation ∧
                outcome.2 = { appender with halted := some refusal.wording, tree := none } := by
  intro size outcome
  have exact := Tables.consistent_iff_ofPrefix? setup.shape lawful
  rw [Tree.Shape.capacity_eq] at exact
  rw [← exact]
  rcases Setup.auditOver_cases setup works reads lawful with
    ⟨consistent, audited⟩ | ⟨inconsistent, overfull, refused⟩ |
      ⟨inconsistent, notOverfull, refusal, violation, refused⟩
  · let report : AuditReport :=
      { identities := size, checkpoints := size
        latestRoot := (tables.ofPrefix? size).map (·.root) }
    have course : outcome = (.ok report, appender) := by
      simp [outcome, audit_eq, free, audited, size, report]
    rw [course]
    exact ⟨⟨fun _ => consistent, fun _ => ⟨_, rfl⟩⟩, rfl, rfl⟩
  · have course : outcome = (.error (.refused (.treeFull setup.shape.depth)), appender) := by
      simp [outcome, audit_eq, free, refused, retriable, afterFailure, Refusal.category]
    rw [course]
    refine ⟨⟨?_, fun consistent => absurd consistent inconsistent⟩, Or.inl ⟨overfull, rfl, rfl⟩⟩
    intro accepting
    obtain ⟨report, accepted⟩ := accepting
    cases accepted
  · have course : outcome = (.error (.refused refusal),
        { appender with halted := some refusal.wording, tree := none }) := by
      simp [outcome, audit_eq, free, refused, retriable, afterFailure, violation]
    rw [course]
    refine ⟨⟨?_, fun consistent => absurd consistent inconsistent⟩,
      Or.inr ⟨notOverfull, refusal, rfl, violation, rfl⟩⟩
    intro accepting
    obtain ⟨report, accepted⟩ := accepting
    cases accepted

/-- A tree of two leaves, in which a node is the text of the leaves below it. -/
def twoLeaves : Setup :=
  { shape := { depth := 1, emptyLeaf := [0], parent := fun left right => left ++ right }
    timeout := .ofInt 10 }

def twoAppended : Tables :=
  { identities := [{ leafIndex := 0, commitment := [1] }, { leafIndex := 1, commitment := [2] }]
    checkpoints :=
      [{ root := [1, 0], lastIdentity := [1], lastLeafIndex := 0, identityCount := 1
         status := .mined, createdAt := .ofCivil { year := 2026, month := 1, day := 1 }
         minedAt := some (.ofCivil { year := 2026, month := 1, day := 2 }) },
       { root := [1, 2], lastIdentity := [2], lastLeafIndex := 1, identityCount := 2
         status := .pending, createdAt := .ofCivil { year := 2026, month := 1, day := 1 }
         minedAt := none }] }

/-- The audit of both prefixes, by the theorem, also by an appender that has stopped. -/
theorem audit_accepts_twoAppended :
    ({ halted := some "disk" } : Appender).audit twoLeaves {} twoAppended =
      (.ok { identities := 2, checkpoints := 2, latestRoot := some [1, 2] },
        { halted := some "disk" }) := by
  have exact := audit_accepts_exactly_consistent twoLeaves {} twoAppended { halted := some "disk" }
    (by decide) (by decide +kernel) (by decide) ⟨by decide, by decide⟩
  have complete : ∀ count, 1 ≤ count → count ≤ twoAppended.identities.length →
      ∃ checkpoint, twoAppended.ofPrefix? count = some checkpoint ∧
        twoAppended.commitments[count - 1]? = some checkpoint.lastIdentity ∧
        checkpoint.root = twoLeaves.shape.rootOver (twoAppended.commitments.take count) := by
    intro count fromOne upTo
    replace upTo : count ≤ 2 := upTo
    interval_cases count
    · exact ⟨_, rfl, rfl, rfl⟩
    · exact ⟨_, rfl, rfl, rfl⟩
  obtain ⟨report, accepted⟩ := exact.1.mpr ⟨by decide, by decide, rfl, complete⟩
  have reported := exact.2
  rw [accepted] at reported
  exact Prod.ext (accepted.trans (congrArg Except.ok reported.1)) reported.2

end Appender

end CommitmentLog
