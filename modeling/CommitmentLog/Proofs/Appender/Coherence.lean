import CommitmentLog.Appender.Audit
import CommitmentLog.Proofs.Appender.Append
import CommitmentLog.Proofs.Store.Sound

/-!
# What an appender keeps

The tree that an appender keeps is the tree over a prefix of the ledger: over all of it, or over less if
other appenders have written since.  An append looks only at the size, and on sound tables that is enough:
a kept tree with as many leaves as there are identities is the tree over the ledger.  So an append on sound
tables either changes nothing or leaves the tables that `Tables.extended` describes.
-/

set_option autoImplicit false

namespace CommitmentLog

open Store

/-- A kept tree is the tree over a prefix of some commitments. -/
def Appender.Knows (shape : Tree.Shape Bytes) (commitments : List Bytes) (appender : Appender) : Prop :=
  ∀ tree, appender.tree = some tree → ∃ known, known <+: commitments ∧ tree = shape.stateOver known

namespace Setup

variable {setup : Setup} {conditions : Conditions} {tables : Tables} {appender : Appender}
  {commitment : Bytes}

theorem Extends.eq_stateOver {tree : Tree.State Bytes}
    (knows : appender.Knows setup.shape tables.commitments)
    (origin : setup.Extends tables appender.tree tree) :
    tree = setup.shape.stateOver tables.commitments := by
  rcases origin with ⟨kept, fits⟩ | ⟨_, _, _, loaded⟩
  · obtain ⟨known, isPrefix, rfl⟩ := knows tree kept
    have sameLength : known.length = tables.commitments.length := by
      rw [Tree.Shape.stateOver_size] at fits
      rw [Tables.commitments_length]
      exact Int.natCast_inj.mp fits
    rw [isPrefix.eq_of_length sameLength]
  · exact loaded

theorem root_ne_of_takes {checkpoint : Checkpoint}
    (taken : Schema.declared.checkpoints.takes checkpointLayout tables.checkpoints checkpoint = true) :
    ∀ other ∈ tables.checkpoints, other.root ≠ checkpoint.root := by
  intro other member
  exact (((Schema.takes_checkpoint_iff _ _).mp taken).2 other member).1.symm

theorem Stores.of_sound {appended : Appended} (declared : setup.schema = .declared)
    (honest : conditions.strikes .hasherStuck = false) (sound : tables.Sound setup.shape)
    (knows : appender.Knows setup.shape tables.commitments)
    (stores : setup.Stores conditions tables appender.tree commitment appended) :
    tables.identities.length < setup.shape.capacity ∧
      (∀ checkpoint ∈ tables.checkpoints,
        checkpoint.root ≠ setup.shape.rootOver (tables.commitments ++ [commitment])) ∧
      ∃ now, conditions.now.toUniversal? = some now ∧
        appended =
          { checkpoint := tables.nextCheckpoint setup.shape commitment now
            tree := setup.shape.stateOver (tables.commitments ++ [commitment])
            tables := tables.extended setup.shape commitment now } := by
  obtain ⟨base, origin, extended⟩ := stores.tree
  rw [origin.eq_stateOver knows] at extended
  obtain ⟨room, treeEq⟩ := extend_ok honest extended
  obtain ⟨now, nowOk, recorded⟩ := stores.checkpoint
  have checkpointEq : appended.checkpoint = tables.nextCheckpoint setup.shape commitment now := by
    rw [recorded, treeEq]
    rfl
  have fresh := stores.checkpointTaken
  rw [declared] at fresh
  have distinct := root_ne_of_takes fresh
  rw [checkpointEq] at distinct
  have tablesEq : appended.tables = tables.extended setup.shape commitment now := by
    rw [stores.tables, checkpointEq, Tables.extended,
      ← Tables.place_nextIdentity sound.consistent.dense,
      ← Tables.place_nextCheckpoint sound.consistent]
    rfl
  rw [Tables.commitments_length] at room
  refine ⟨room, distinct, now, nowOk, ?_⟩
  rw [← checkpointEq, ← treeEq, ← tablesEq]

end Setup

namespace Appender

variable {setup : Setup} {conditions : Conditions} {tables : Tables} {appender : Appender}
  {shape : Tree.Shape Bytes} {commitments : List Bytes}

/-! ## One append -/

/-- An append on sound tables fails and changes no row, or extends the tables. -/
theorem append_of_sound (declared : setup.schema = .declared)
    (honest : conditions.strikes .hasherStuck = false) (clock : Binary) (commitment : Bytes)
    (sound : tables.Sound setup.shape) (knows : appender.Knows setup.shape tables.commitments) :
    let outcome := appender.append setup conditions clock tables commitment
    (∃ failure, outcome.result = .error failure ∧ outcome.tables = tables ∧
        (outcome.appender.tree = none ∨ outcome.appender = appender)) ∨
      (tables.identities.length < setup.shape.capacity ∧
        (∀ checkpoint ∈ tables.checkpoints,
          checkpoint.root ≠ setup.shape.rootOver (tables.commitments ++ [commitment])) ∧
        ∃ now, conditions.now.toUniversal? = some now ∧
          outcome.result = .ok (tables.nextCheckpoint setup.shape commitment now) ∧
          outcome.tables = tables.extended setup.shape commitment now ∧
          outcome.appender =
            { appender with
              tree := some (setup.shape.stateOver (tables.commitments ++ [commitment])) }) := by
  rcases append_cases setup conditions clock tables appender commitment with
    ⟨failure, _, course⟩ | ⟨reason, _, course⟩ | ⟨_, _, cause, later, _, course⟩ |
      ⟨_, _, appended, later, committed, course⟩
  · rw [course]
    exact Or.inl ⟨failure, rfl, rfl, Or.inr rfl⟩
  · rw [course]
    exact Or.inl ⟨_, rfl, rfl, Or.inr rfl⟩
  · rw [course]
    refine Or.inl ⟨retriable cause, rfl, rfl, ?_⟩
    rcases afterFailure_cases appender cause with ⟨refusal, _, _, halted⟩ | ⟨_, same⟩
    · exact Or.inl (by rw [halted])
    · exact Or.inr same
  · obtain ⟨room, fresh, now, nowOk, rfl⟩ :=
      (Setup.transaction_ok committed).of_sound declared honest sound knows
    rw [course]
    exact Or.inr ⟨room, fresh, now, nowOk, rfl, rfl, rfl⟩

theorem append_sound (declared : setup.schema = .declared)
    (honest : conditions.strikes .hasherStuck = false) (clock : Binary) (commitment : Bytes)
    (sound : tables.Sound setup.shape) (knows : appender.Knows setup.shape tables.commitments) :
    let outcome := appender.append setup conditions clock tables commitment
    outcome.tables.Sound setup.shape ∧ tables.commitments <+: outcome.tables.commitments ∧
      outcome.appender.Knows setup.shape outcome.tables.commitments := by
  dsimp only
  rcases append_of_sound declared honest clock commitment sound knows with
    ⟨_, _, tablesEq, forgotten | same⟩ | ⟨room, fresh, now, _, _, tablesEq, appenderEq⟩
  · rw [tablesEq]
    refine ⟨sound, List.prefix_refl _, ?_⟩
    intro tree kept
    rw [forgotten] at kept
    cases kept
  · rw [tablesEq, same]
    exact ⟨sound, List.prefix_refl _, knows⟩
  · rw [tablesEq, appenderEq, Tables.commitments_extended]
    refine ⟨sound.extended room fresh, List.prefix_append _ _, ?_⟩
    intro tree kept
    exact ⟨_, List.prefix_refl _, (Option.some.inj kept).symm⟩

/-! ## Other operations -/

theorem knows_of_forgotten (forgotten : appender.tree = none) : appender.Knows shape commitments := by
  intro tree kept
  rw [forgotten] at kept
  cases kept

theorem Knows.mono {more : List Bytes} (knows : appender.Knows shape commitments)
    (longer : commitments <+: more) : appender.Knows shape more := by
  intro tree kept
  obtain ⟨known, isPrefix, same⟩ := knows tree kept
  exact ⟨known, isPrefix.trans longer, same⟩

theorem Knows.afterFailure (knows : appender.Knows shape commitments) (failure : Failure) :
    (appender.afterFailure failure).Knows shape commitments := by
  rcases afterFailure_cases appender failure with ⟨refusal, _, _, halted⟩ | ⟨_, same⟩
  · exact knows_of_forgotten (by rw [halted])
  · rwa [same]

theorem Knows.recover (knows : appender.Knows setup.shape tables.commitments) :
    (appender.recover setup conditions tables).2.Knows setup.shape tables.commitments := by
  rw [Appender.recover_eq]
  split
  · exact knows
  · split
    · exact knows
    · split
      case h_1 loaded loadedOk =>
        intro tree kept
        cases kept
        exact ⟨_, List.prefix_refl _, (Setup.loadTree_ok loadedOk).2.2⟩
      case h_2 failure _ => exact knows.afterFailure failure

theorem Knows.audit (knows : appender.Knows shape commitments) :
    (appender.audit setup conditions tables).2.Knows shape commitments := by
  rw [Appender.audit_eq]
  split
  · exact knows
  · split
    · exact knows
    · exact knows.afterFailure _

theorem Knows.resetHalt (knows : appender.Knows shape commitments) :
    (appender.resetHalt setup).2.Knows shape commitments := by
  rw [Appender.resetHalt_eq]
  split
  · exact knows
  · exact knows_of_forgotten rfl

theorem Knows.release (knows : appender.Knows shape commitments) :
    appender.release.2.Knows shape commitments := by
  rw [Appender.release]
  split
  · exact knows
  · exact knows

end Appender

end CommitmentLog
