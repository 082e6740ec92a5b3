import CommitmentLog.Proofs.Appender.Append

/-!
# All or nothing

An append stores an identity together with its checkpoint, or it stores nothing.  This holds for any
content of the tables, any state of the appender and any faults.  An append that fails leaves the appender
as it was, with one exception: if it has itself come upon a violation of integrity, the appender stops for
that reason and forgets its tree.
-/

set_option autoImplicit false

namespace CommitmentLog.Appender

open Store

/-- A failed append changes nothing but that it may stop the appender, and a successful one adds the
identity at the next leaf and the pending checkpoint whose root the kept tree has. -/
theorem append_all_or_nothing (setup : Setup) (conditions : Conditions) (clock : Binary)
    (tables : Tables) (appender : Appender) (commitment : Bytes) :
    let outcome := appender.append setup conditions clock tables commitment
    match outcome.result with
    | .error failure =>
        outcome.tables = tables ∧
          ((∃ refusal, failure = .refused refusal ∧ refusal.category = .integrityViolation ∧
              appender.enter setup = .ok () ∧ appender.halted = none ∧
              outcome.appender = { appender with halted := some refusal.wording, tree := none }) ∨
            (appender.enter setup = .ok () → appender.halted = none → ∀ refusal,
              failure = .refused refusal → refusal.category ≠ .integrityViolation) ∧
              outcome.appender = appender)
    | .ok checkpoint =>
        ∃ base next now, setup.Extends tables appender.tree base ∧
          setup.extend conditions base commitment = .ok next ∧
          conditions.now.toUniversal? = some now ∧
          checkpoint =
            { root := next.root, lastIdentity := commitment
              lastLeafIndex := tables.identities.length
              identityCount := tables.identities.length + 1
              status := .pending, createdAt := .ofCivil now, minedAt := none } ∧
          outcome.tables.identities.Perm
            ({ leafIndex := tables.identities.length, commitment } :: tables.identities) ∧
          outcome.tables.checkpoints.Perm (checkpoint :: tables.checkpoints) ∧
          outcome.appender = { tree := some next, halted := none, locked := appender.locked } := by
  rcases append_cases setup conditions clock tables appender commitment with
    ⟨failure, busy, course⟩ | ⟨reason, stopped, course⟩ | ⟨entered, runs, cause, later, _, course⟩ |
      ⟨_, runs, appended, later, committed, course⟩
  · rw [course]
    refine ⟨rfl, Or.inr ⟨?_, rfl⟩⟩
    intro entered
    rw [busy] at entered
    cases entered
  · rw [course]
    refine ⟨rfl, Or.inr ⟨?_, rfl⟩⟩
    intro _ runs
    rw [stopped] at runs
    cases runs
  · rw [course]
    rcases afterFailure_cases appender cause with ⟨refusal, told, violation, halted⟩ | ⟨other, same⟩
    · exact ⟨rfl, Or.inl ⟨refusal, told, violation, entered, runs, halted⟩⟩
    · exact ⟨rfl, Or.inr ⟨fun _ _ => other, same⟩⟩
  · rw [course]
    have stores := Setup.transaction_ok committed
    obtain ⟨base, origin, extended⟩ := stores.tree
    obtain ⟨now, nowOk, recorded⟩ := stores.checkpoint
    refine ⟨base, appended.tree, now, origin, extended, nowOk, recorded, ?_, ?_, ?_⟩
    · rw [stores.tables]
      exact place_perm _ _ _
    · rw [stores.tables]
      exact place_perm _ _ _
    · rw [← runs]

end CommitmentLog.Appender
