import CommitmentLog.Appender.Audit
import CommitmentLog.Appender.Inclusion
import CommitmentLog.Proofs.Appender.Append
import CommitmentLog.Proofs.Appender.Undisturbed

/-!
# The statements of an operation

The statements at which the database may report an error, in the order in which an operation carries them
out when it reports none.  The list of an operation is put together from the lists of its stages: behind a
stage that fails there are no more statements.  `Executes` says what such a list promises of a stage, and it
is closed under sequencing, so one lemma for each stage is enough.
-/

set_option autoImplicit false

namespace CommitmentLog

open Store

/-! ## Stages -/

def following {α : Type} (result : Except Failure α) (rest : α → List Fault) : List Fault :=
  match result with
  | .ok value => rest value
  | .error _ => []

/-- When nothing strikes, a stage carries out these statements.  If the database reports an error at one of
them, the stage ends with a failure after which the operation may be tried again; an error anywhere else makes
no difference. -/
def Executes {α : Type} (conditions : Conditions) (stage : Conditions → Except Failure α)
    (statements : List Fault) : Prop :=
  ∀ fault : Fault, fault.OfDatabase →
    (fault ∈ statements → ∃ failure, stage (conditions.struckBy fault) = .error failure ∧
        Appender.retriable failure = .refused .storageFailed) ∧
      (fault ∉ statements → stage (conditions.struckBy fault) = stage conditions)

namespace Executes

variable {α β : Type} {conditions : Conditions}

theorem fails {stage : Conditions → Except Failure α} {statements : List Fault} {fault : Fault}
    (executes : Executes conditions stage statements) (ofDatabase : fault.OfDatabase)
    (struck : fault ∈ statements) :
    ∃ failure, stage (conditions.struckBy fault) = .error failure ∧
      Appender.retriable failure = .refused .storageFailed :=
  (executes fault ofDatabase).1 struck

theorem same {stage : Conditions → Except Failure α} {statements : List Fault} {fault : Fault}
    (executes : Executes conditions stage statements) (ofDatabase : fault.OfDatabase)
    (spared : fault ∉ statements) : stage (conditions.struckBy fault) = stage conditions :=
  (executes fault ofDatabase).2 spared

theorem of_same {stage : Conditions → Except Failure α}
    (same : ∀ fault : Fault, fault.OfDatabase →
      stage (conditions.struckBy fault) = stage conditions) : Executes conditions stage [] := by
  intro fault ofDatabase
  exact ⟨fun none => (List.not_mem_nil none).elim, fun _ => same fault ofDatabase⟩

theorem const (result : Except Failure α) : Executes conditions (fun _ => result) [] :=
  of_same fun _ _ => rfl

theorem of_one {stage : Conditions → Except Failure α} {statement : Fault} {failure : Failure}
    (fails : stage (conditions.struckBy statement) = .error failure)
    (told : Appender.retriable failure = .refused .storageFailed)
    (same : ∀ fault : Fault, fault.OfDatabase → fault ≠ statement →
      stage (conditions.struckBy fault) = stage conditions) :
    Executes conditions stage [statement] := by
  intro fault ofDatabase
  refine ⟨?_, ?_⟩
  · intro struck
    cases List.mem_singleton.mp struck
    exact ⟨failure, fails, told⟩
  · intro spared
    exact same fault ofDatabase fun struck => spared (List.mem_singleton.mpr struck)

theorem bind {first : Conditions → Except Failure α} {next : Conditions → α → Except Failure β}
    {statements : List Fault} {rest : α → List Fault} (firstExecutes : Executes conditions first statements)
    (nextExecutes : ∀ value, first conditions = .ok value →
      Executes conditions (fun conditions => next conditions value) (rest value)) :
    Executes conditions (fun conditions => first conditions >>= next conditions)
      (statements ++ following (first conditions) rest) := by
  intro fault ofDatabase
  obtain ⟨fails, same⟩ := firstExecutes fault ofDatabase
  by_cases early : fault ∈ statements
  · obtain ⟨failure, failed, told⟩ := fails early
    refine ⟨fun _ => ⟨failure, ?_, told⟩, fun spared => ?_⟩
    · simp only [failed]
      rfl
    · exact absurd (List.mem_append_left _ early) spared
  · have goesOn := same early
    cases result : first conditions with
    | error failure =>
        refine ⟨fun struck => ?_, fun _ => ?_⟩
        · simp only [following, List.append_nil] at struck
          exact absurd struck early
        · simp only [goesOn, result]
          rfl
    | ok value =>
        obtain ⟨laterFails, laterSame⟩ := nextExecutes value result fault ofDatabase
        have behind : fault ∈ statements ++ following (.ok value) rest ↔ fault ∈ rest value := by
          simp [following, early]
        rw [behind]
        simp only [goesOn, result]
        exact ⟨laterFails, laterSame⟩

theorem andThen {first : Conditions → Except Failure α} {next : Conditions → α → Except Failure β}
    {statements : List Fault} (firstExecutes : Executes conditions first statements)
    (same : ∀ (value : α) (fault : Fault), fault.OfDatabase →
      next (conditions.struckBy fault) value = next conditions value) :
    Executes conditions (fun conditions => first conditions >>= next conditions) statements := by
  have whole := firstExecutes.bind fun value _ => of_same (same value)
  have noMore : following (first conditions) (fun _ => []) = [] := by
    cases first conditions <;> rfl
  rwa [noMore, List.append_nil] at whole

end Executes

/-! ## Reading and writing -/

section Stages

variable {conditions : Conditions} (faultless : conditions.faults = [])

include faultless

theorem Ledger.count_executes (tables : Tables) :
    Executes conditions (fun conditions => Ledger.count conditions tables) [.count] := by
  have fails : Ledger.count (conditions.struckBy .count) tables =
      .error (.database .operational) := by
    simp [Ledger.count, (Conditions.strikes_struckBy conditions .count .count).mpr rfl]
  refine Executes.of_one fails rfl ?_
  intro fault _ apart
  simp [Ledger.count, Conditions.strikes_struckBy_of_ne conditions apart,
    Conditions.strikes_of_faultless faultless]

theorem Ledger.leaves_executes (tables : Tables) :
    Executes conditions (fun conditions => Ledger.leaves conditions tables) [.leaves] := by
  have fails : Ledger.leaves (conditions.struckBy .leaves) tables =
      .error (.database .operational) := by
    simp [Ledger.leaves, (Conditions.strikes_struckBy conditions .leaves .leaves).mpr rfl]
  refine Executes.of_one fails rfl ?_
  intro fault _ apart
  simp [Ledger.leaves, Conditions.strikes_struckBy_of_ne conditions apart,
    Conditions.strikes_of_faultless faultless]

theorem Setup.loadTree_executes (setup : Setup) (tables : Tables) :
    Executes conditions (fun conditions => setup.loadTree conditions tables) [.leaves] :=
  (Ledger.leaves_executes faultless tables).andThen fun _ _ _ => rfl

theorem Setup.extend_struckBy (setup : Setup) (tree : Tree.State Bytes) (leaf : Bytes)
    (fault : Fault) (ofDatabase : fault.OfDatabase) :
    setup.extend (conditions.struckBy fault) tree leaf = setup.extend conditions tree leaf := by
  have runs := Conditions.strikes_struckBy_of_not_ofDatabase conditions ofDatabase .hasherCrash id
  have honest := Conditions.strikes_struckBy_of_not_ofDatabase conditions ofDatabase .hasherStuck id
  simp only [Setup.extend, runs, honest, Conditions.strikes_of_faultless faultless]

theorem Setup.auditFrom_struckBy (setup : Setup) (leaves : List Bytes) (expected : Nat)
    (tree : Tree.State Bytes) (checkpoints : List Checkpoint) (fault : Fault)
    (ofDatabase : fault.OfDatabase) :
    setup.auditFrom (conditions.struckBy fault) leaves expected tree checkpoints =
      setup.auditFrom conditions leaves expected tree checkpoints := by
  induction checkpoints generalizing expected tree with
  | nil => rfl
  | cons checkpoint rest inductionHypothesis =>
      have sameStep : setup.auditOne (conditions.struckBy fault) leaves expected tree checkpoint =
          setup.auditOne conditions leaves expected tree checkpoint := by
        simp only [Setup.auditOne, setup.extend_struckBy faultless tree _ fault ofDatabase]
      rw [Setup.auditFrom, Setup.auditFrom, sameStep]
      cases setup.auditOne conditions leaves expected tree checkpoint with
      | error failure => rfl
      | ok next => exact inductionHypothesis (expected + 1) next

theorem Setup.auditOver_executes (setup : Setup) (tables : Tables) :
    Executes conditions (fun conditions => setup.auditOver conditions tables tables) [.leaves] := by
  refine (Ledger.leaves_executes faultless tables).andThen ?_
  intro leaves fault ofDatabase
  simp only [setup.auditFrom_struckBy faultless leaves _ _ _ fault ofDatabase]

end Stages

/-! ## Recording a checkpoint -/

namespace Checkpoints

/-- The statements of an insertion that has a number of writes behind it: the row is sent when all checks
have been passed. -/
def insertStatements (conditions : Conditions) (offset : Nat) (tables : Tables) (draft : Draft) :
    List Fault :=
  following (checked conditions tables draft) fun _ =>
    [.write (conditions.written + offset + 1) .operational]

variable {conditions : Conditions} (faultless : conditions.faults = [])

include faultless

theorem stored_executes (schema : Schema) (offset : Nat) (tables : Tables) (checkpoint : Checkpoint) :
    Executes conditions (fun conditions => stored schema conditions offset tables checkpoint)
      [.write (conditions.written + offset + 1) .operational] := by
  have fails : stored schema
      (conditions.struckBy (.write (conditions.written + offset + 1) .operational)) offset tables
      checkpoint = .error (.refused .storageFailed) := by
    rw [stored, Conditions.write_of_struck schema offset tables _ rfl]
  refine Executes.of_one fails rfl ?_
  intro fault ofDatabase spared
  rw [stored, Conditions.write_of_spared faultless ofDatabase schema offset tables _ spared, stored]

theorem insert_executes (schema : Schema) (offset : Nat) (tables : Tables) (draft : Draft) :
    Executes conditions (fun conditions => insert schema conditions offset tables draft)
      (insertStatements conditions offset tables draft) := by
  have whole := (Executes.const (checked conditions tables draft)).bind fun checkpoint _ =>
    stored_executes faultless schema offset tables checkpoint
  intro fault ofDatabase
  have struck := insert_eq
    (Conditions.strikes_struckBy_of_not_ofDatabase conditions ofDatabase .insertionAway id)
    (Conditions.strikes_struckBy_of_not_ofDatabase conditions ofDatabase .insertionRefused id)
    schema offset tables draft
  have calm := insert_eq (Conditions.strikes_of_faultless faultless .insertionAway)
    (Conditions.strikes_of_faultless faultless .insertionRefused) schema offset tables draft
  simp only [struck, calm]
  exact whole fault ofDatabase

end Checkpoints

/-! ## The stages of an append -/

namespace Setup

def currentStatements (setup : Setup) (conditions : Conditions) (tables : Tables)
    (kept : Option (Tree.State Bytes)) : List Fault :=
  (if kept.isNone then [.leaves] else []) ++
    following ((kept.map .ok).getD (setup.loadTree conditions tables)) fun tree =>
      [.count] ++ following (Ledger.count conditions tables) fun next =>
        if (next : Int) = tree.size then [] else [.leaves]

def prepareStatements (setup : Setup) (conditions : Conditions) (tables : Tables)
    (kept : Option (Tree.State Bytes)) : List Fault :=
  setup.currentStatements conditions tables kept ++
    following (setup.currentTree conditions tables kept) fun _ =>
      [.count, .write (conditions.written + 1) .operational]

def draftOf (commitment : Bytes) (prepared : Prepared) : Checkpoints.Draft :=
  { root := prepared.tree.root, lastIdentity := commitment, identityCount := prepared.leaf + 1 }

def recordStatements (setup : Setup) (conditions : Conditions) (commitment : Bytes)
    (prepared : Prepared) (seconds : Binary) : List Fault :=
  let draft := draftOf commitment prepared
  Checkpoints.insertStatements conditions 1 prepared.tables draft ++
    following (Checkpoints.insert setup.schema conditions 1 prepared.tables draft) fun _ =>
      if setup.timeout.isLess seconds then [] else [.commit]

def transactionStatements (setup : Setup) (conditions : Conditions) (clock : Binary) (tables : Tables)
    (kept : Option (Tree.State Bytes)) (commitment : Bytes) : List Fault :=
  setup.prepareStatements conditions tables kept ++
    following (setup.prepare conditions tables kept commitment) fun prepared =>
      setup.recordStatements conditions commitment prepared
        ((clock.plus conditions.elapsed).minus clock)

variable {conditions : Conditions} (faultless : conditions.faults = [])

include faultless

theorem currentTree_executes (setup : Setup) (tables : Tables) (kept : Option (Tree.State Bytes)) :
    Executes conditions (fun conditions => setup.currentTree conditions tables kept)
      (setup.currentStatements conditions tables kept) := by
  have load := setup.loadTree_executes faultless tables
  have first : Executes conditions
      (fun conditions => (kept.map .ok).getD (setup.loadTree conditions tables))
      (if kept.isNone then [.leaves] else []) := by
    cases kept with
    | none => exact load
    | some tree => exact Executes.const (.ok tree)
  refine first.bind fun tree _ => ?_
  refine (Ledger.count_executes faultless tables).bind fun next _ => ?_
  split
  · exact Executes.const _
  · exact load.andThen fun _ _ _ => rfl

/-- The identity goes to the next leaf, so nothing stands between the count and the write. -/
theorem ledgerAppend_executes (schema : Schema) (tables : Tables) (commitment : Bytes) :
    Executes conditions
      (fun conditions => Ledger.append schema conditions tables commitment
        (some tables.identities.length))
      [.count, .write (conditions.written + 1) .operational] := by
  have whole : Executes conditions
      (fun conditions => Ledger.append schema conditions tables commitment
        (some tables.identities.length))
      ([.count] ++ following (Ledger.count conditions tables) fun _ =>
        [.write (conditions.written + 1) .operational]) := by
    refine (Ledger.count_executes faultless tables).bind fun next counted => ?_
    rw [Ledger.count_ok counted]
    simp only [Option.getD_some, lt_irrefl, if_false]
    have told : Appender.retriable (.refused .storageFailed) = .refused .storageFailed := rfl
    refine Executes.of_one ?_ told ?_
    · rw [Conditions.write_of_struck schema 0 tables _ rfl]
    · intro fault ofDatabase spared
      rw [Conditions.write_of_spared faultless ofDatabase schema 0 tables _ spared]
  rwa [Ledger.count_of_faultless faultless] at whole

theorem prepare_executes (setup : Setup) (tables : Tables) (kept : Option (Tree.State Bytes))
    (commitment : Bytes) :
    Executes conditions (fun conditions => setup.prepare conditions tables kept commitment)
      (setup.prepareStatements conditions tables kept) := by
  refine (currentTree_executes faultless setup tables kept).bind fun current found => ?_
  obtain ⟨leaf, tree⟩ := current
  obtain ⟨atEnd, _⟩ := currentTree_origin found
  subst atEnd
  refine (ledgerAppend_executes faultless setup.schema tables commitment).andThen ?_
  intro stored fault ofDatabase
  simp only [setup.extend_struckBy faultless tree commitment fault ofDatabase]

theorem record_executes (setup : Setup) (commitment : Bytes) (prepared : Prepared)
    (seconds : Binary) :
    Executes conditions (fun conditions => setup.record conditions commitment prepared seconds)
      (setup.recordStatements conditions commitment prepared seconds) := by
  refine (Checkpoints.insert_executes faultless setup.schema 1 prepared.tables
    (draftOf commitment prepared)).bind fun recorded _ => ?_
  obtain ⟨checkpoint, written⟩ := recorded
  simp only
  split
  · exact Executes.const _
  · have told : Appender.retriable (.database .operational) = .refused .storageFailed := rfl
    refine Executes.of_one ?_ told ?_
    · simp [(Conditions.strikes_struckBy conditions .commit .commit).mpr rfl]
    · intro fault _ apart
      simp [Conditions.strikes_struckBy_of_ne conditions apart,
        Conditions.strikes_of_faultless faultless]

theorem transaction_executes (setup : Setup) (clock : Binary) (tables : Tables)
    (kept : Option (Tree.State Bytes)) (commitment : Bytes) :
    Executes conditions
      (fun conditions => (setup.transaction conditions clock tables kept commitment).1)
      (setup.transactionStatements conditions clock tables kept commitment) := by
  have stages (conditions : Conditions) :
      (setup.transaction conditions clock tables kept commitment).1 =
        setup.prepare conditions tables kept commitment >>= fun prepared =>
          setup.record conditions commitment prepared
            ((clock.plus conditions.elapsed).minus clock) := by
    rw [transaction]
    cases setup.prepare conditions tables kept commitment <;> rfl
  have whole := (prepare_executes faultless setup tables kept commitment).bind fun prepared _ =>
    record_executes faultless setup commitment prepared ((clock.plus conditions.elapsed).minus clock)
  intro fault ofDatabase
  simp only [stages]
  exact whole fault ofDatabase

theorem transaction_of_spared (setup : Setup) (clock : Binary) (tables : Tables)
    (kept : Option (Tree.State Bytes)) (commitment : Bytes) {fault : Fault}
    (ofDatabase : fault.OfDatabase)
    (spared : fault ∉ setup.transactionStatements conditions clock tables kept commitment) :
    setup.transaction (conditions.struckBy fault) clock tables kept commitment =
      setup.transaction conditions clock tables kept commitment := by
  have prepares := (prepare_executes faultless setup tables kept commitment).same ofDatabase
    fun struck => spared (List.mem_append_left _ struck)
  refine Prod.ext ?_ ?_
  · exact (transaction_executes faultless setup clock tables kept commitment).same ofDatabase spared
  · rw [transaction, transaction, prepares]
    cases setup.prepare conditions tables kept commitment <;> rfl

end Setup

end CommitmentLog
