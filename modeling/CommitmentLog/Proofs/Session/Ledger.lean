import CommitmentLog.Proofs.Appender.Undisturbed
import CommitmentLog.Proofs.Checkpoints.Checks
import CommitmentLog.Proofs.Session.Run

/-!
# The ledger of a session is a list

A session that only appends works on a dense ledger, and everything it can ask of the ledger it could ask of
the list of commitments: those at the beginning, followed by the ones that were accepted.  The number of
identities is the length of the list, a leaf is a position in it, and a commitment is found at its first
position.  An append is accepted exactly at the end of the list, and the store never rejects it.
-/

set_option autoImplicit false

namespace CommitmentLog

open Store

variable {tables : Tables} {conditions : Conditions}

/-! ## A dense ledger -/

namespace Tables

theorem dense_staged (dense : tables.Dense) (commitment : Bytes) : (tables.staged commitment).Dense := by
  rw [Dense, staged, List.map_append, List.map_singleton, countsFrom_concat]
  exact ⟨dense, by simp [nextIdentity]⟩

theorem commitments_staged (tables : Tables) (commitment : Bytes) :
    (tables.staged commitment).commitments = tables.commitments ++ [commitment] := by
  simp [commitments, staged, nextIdentity]

theorem Dense.leafIndex_getElem (dense : tables.Dense) (position : Nat)
    (inside : position < tables.identities.length) :
    tables.identities[position].leafIndex = position := by
  have counted := dense.getElem position (by simpa using inside)
  rwa [List.getElem_map, Nat.zero_add] at counted

theorem Dense.find?_leafIndex (dense : tables.Dense) (position : Nat)
    (inside : position < tables.identities.length) :
    tables.identities.find? (fun identity => identity.leafIndex = (position : Int)) =
      some tables.identities[position] := by
  rw [List.find?_eq_some_iff_getElem]
  refine ⟨decide_eq_true (dense.leafIndex_getElem position inside), position, inside, rfl, ?_⟩
  intro earlier before
  have place := dense.leafIndex_getElem earlier (by omega)
  simp only [place, Bool.not_eq_true', decide_eq_false_iff_not]
  omega

theorem Dense.find?_leafIndex_of_outside (dense : tables.Dense) (leaf : Int)
    (outside : ¬(0 ≤ leaf ∧ leaf < tables.identities.length)) :
    tables.identities.find? (fun identity => identity.leafIndex = leaf) = none := by
  rw [List.find?_eq_none]
  intro identity member here
  obtain ⟨position, inside, rfl⟩ := List.getElem_of_mem member
  have place := dense.leafIndex_getElem position inside
  rw [decide_eq_true_eq] at here
  omega

end Tables

namespace Ledger

/-- Counting from a start, the first identity with a commitment stands as far behind the start as the first
such commitment in the list. -/
theorem find?_commitment_of_countsFrom (start : Nat) (identities : List Identity) (commitment : Bytes)
    (counts : CountsFrom start (identities.map (·.leafIndex))) :
    (identities.find? fun identity => identity.commitment = commitment).map (·.leafIndex) =
      ((identities.map (·.commitment)).idxOf? commitment).map fun position =>
        ((start + position : Nat) : Int) := by
  induction identities generalizing start with
  | nil => rfl
  | cons first rest inductionHypothesis =>
      rw [List.map_cons, countsFrom_cons] at counts
      have behind := inductionHypothesis (start + 1) counts.2
      rw [List.find?_cons, List.map_cons, List.idxOf?_cons]
      by_cases here : first.commitment = commitment
      · simp [here, counts.1]
      · have shifted : ∀ position : Nat, start + 1 + position = start + (position + 1) := by omega
        simp only [shifted] at behind
        simp [here, behind, Function.comp_def]

variable {commitment : Bytes}

theorem find_of_dense (dense : tables.Dense) (commitment : Bytes) :
    find tables commitment =
      match tables.commitments.idxOf? commitment with
      | some position => .ok (position : Int)
      | none => .error (.refused (.unknownCommitment commitment)) := by
  have places := find?_commitment_of_countsFrom 0 tables.identities commitment dense
  simp only [Nat.zero_add] at places
  rw [find, Tables.commitments]
  cases found : tables.identities.find? fun identity => identity.commitment = commitment with
  | none =>
      rw [found, Option.map_none, eq_comm, Option.map_eq_none_iff] at places
      rw [places]
  | some identity =>
      rw [found, Option.map_some, eq_comm, Option.map_eq_some_iff] at places
      obtain ⟨position, first, here⟩ := places
      rw [first]
      exact congrArg Except.ok here.symm

theorem get_of_inside (dense : tables.Dense) (position : Nat) (fits : Statement.fits position = true)
    (inside : position < tables.commitments.length) :
    get tables position = .ok tables.commitments[position] := by
  have found := dense.find?_leafIndex position (by simpa [Tables.commitments] using inside)
  rw [get, bound_of_fits fits]
  simp only [bind, Except.bind, found]
  simp [Tables.commitments]

theorem get_of_outside (dense : tables.Dense) (leaf : Int) (fits : Statement.fits leaf = true)
    (outside : ¬(0 ≤ leaf ∧ leaf < tables.identities.length)) :
    get tables leaf = .error (.refused (.vacantLeaf leaf)) := by
  rw [get, bound_of_fits fits]
  simp only [bind, Except.bind, dense.find?_leafIndex_of_outside leaf outside]

theorem contains_of_dense (dense : tables.Dense) (commitment : Bytes) (leaf : Int)
    (fits : Statement.fits leaf = true) :
    contains tables commitment leaf =
      .ok (decide (0 ≤ leaf ∧ tables.commitments[leaf.toNat]? = some commitment)) := by
  have held : tables.holds commitment leaf = true ↔
      0 ≤ leaf ∧ tables.commitments[leaf.toNat]? = some commitment := by
    constructor
    · intro held
      obtain ⟨identity, member, _, rfl⟩ := Tables.holds_iff.mp held
      obtain ⟨position, inside, rfl⟩ := List.getElem_of_mem member
      rw [dense.leafIndex_getElem position inside] at held ⊢
      exact ⟨Int.natCast_nonneg _, dense.commitment_of_holds held⟩
    · rintro ⟨natural, here⟩
      obtain ⟨inside, here⟩ := List.getElem?_eq_some_iff.mp here
      have position : leaf.toNat < tables.identities.length := by simpa [Tables.commitments] using inside
      have place := dense.leafIndex_getElem leaf.toNat position
      refine Tables.holds_iff.mpr ⟨_, List.getElem_mem position, ?_, ?_⟩
      · simpa [Tables.commitments] using here
      · omega
  rw [contains, bound_of_fits fits, ← Bool.eq_iff_iff.mpr (held.trans decide_eq_true_iff.symm)]
  rfl

theorem append_of_dense (faultless : conditions.faults = []) (dense : tables.Dense) (commitment : Bytes)
    (leafIndex : Option Int) :
    append .declared conditions tables commitment leafIndex =
      let next : Int := tables.commitments.length
      let wanted := leafIndex.getD next
      if wanted < next then .error (.refused (.leafTaken wanted next))
      else if next < wanted then .error (.refused (.leafBeyondNext wanted next))
      else .ok (next, tables.staged commitment) := by
  have ran : (Statement.insertIdentity (tables.nextIdentity commitment)).run .declared tables =
      some (tables.staged commitment, 1) := Tables.run_insertIdentity_next dense
  have written := Conditions.write_of_faultless faultless .declared 0 _ _ _ _ ran
  rw [Tables.nextIdentity] at written
  simp only [append, count_of_faultless faultless, Tables.commitments_length, written, bind, Except.bind]

end Ledger

/-! ## What a session answers -/

namespace Session

variable {session : Session}

def Answers (session : Session) (operation : Operation) (answer : Answer) : Prop :=
  ∀ conditions : Conditions, conditions.faults = [] →
    session.step .declared conditions operation = (.ok answer, false, session)

def Refuses (session : Session) (operation : Operation) (category : Category) (refusal : Refusal) :
    Prop :=
  ∀ conditions : Conditions, conditions.faults = [] →
    Checkpoints.RefusesAs session category refusal (session.step .declared conditions operation)

/-- A session answers as its ledger would if it were a list of commitments. -/
structure ReadsAs (session : Session) (list : List Bytes) : Prop where
  count : session.Answers .count (.number list.length)
  leaves : session.Answers .leaves (.commitments list)
  get : ∀ (position : Nat) (inside : position < list.length),
    session.Answers (.get position) (.commitment list[position])
  getOutside : ∀ leaf, Statement.fits leaf = true → ¬(0 ≤ leaf ∧ leaf < list.length) →
    session.Refuses (.get leaf) .notFound (.vacantLeaf leaf)
  contains : ∀ commitment leaf, Statement.fits leaf = true →
    session.Answers (.contains commitment leaf)
      (.truth (0 ≤ leaf ∧ list[leaf.toNat]? = some commitment))
  find : ∀ commitment position, list.idxOf? commitment = some position →
    session.Answers (.find commitment) (.number position)
  findAbsent : ∀ commitment ∉ list,
    session.Refuses (.find commitment) .notFound (.unknownCommitment commitment)

/-- A session appends as to a list: at its end and nowhere else. -/
structure AppendsTo (session : Session) (list : List Bytes) : Prop where
  accepts : ∀ commitment leafIndex, leafIndex = none ∨ leafIndex = some (list.length : Int) →
    ∀ conditions : Conditions, conditions.faults = [] → ∃ later,
      session.step .declared conditions (.append commitment leafIndex) =
        (.ok (.number list.length), false, later) ∧
      later.working.commitments = list ++ [commitment]
  taken : ∀ commitment (leaf : Int), leaf < list.length →
    session.Refuses (.append commitment (some leaf)) .duplicateLeaf (.leafTaken leaf list.length)
  beyond : ∀ commitment (leaf : Int), list.length < leaf →
    session.Refuses (.append commitment (some leaf)) .integrityViolation
      (.leafBeyondNext leaf list.length)
  /-- The store takes the next identity, whatever its commitment. -/
  stores : ∀ commitment, ∃ after,
    (Statement.insertIdentity { leafIndex := list.length, commitment }).run .declared session.working =
      some (after, 1)

theorem answers_of_within {operation : Operation} {answer : Answer}
    (plain : operation ≠ .commit ∧ operation ≠ .rollback)
    (answered : ∀ conditions : Conditions, conditions.faults = [] →
      within .declared conditions session.working operation = (.ok answer, session.working)) :
    session.Answers operation answer := by
  intro conditions faultless
  rw [step_of_plain _ _ _ plain, answered conditions faultless]

theorem refuses_of_within {operation : Operation} {refusal : Refusal}
    (plain : operation ≠ .commit ∧ operation ≠ .rollback)
    (unrejected : rejected operation (.refused refusal) = false)
    (refused : ∀ conditions : Conditions, conditions.faults = [] →
      within .declared conditions session.working operation =
        (.error (.refused refusal), session.working)) :
    session.Refuses operation refusal.category refusal :=
  fun conditions faultless =>
    ⟨rfl, step_of_refused plain faultless unrejected (refused conditions faultless)⟩

theorem readsAs_of_dense (dense : session.working.Dense)
    (fits : Statement.fits session.working.commitments.length = true) :
    session.ReadsAs session.working.commitments := by
  have size := Tables.commitments_length session.working
  refine ⟨?_, ?_, ?_, ?_, ?_, ?_, ?_⟩
  · refine answers_of_within (by simp) fun conditions faultless => ?_
    rw [within, Ledger.count_of_faultless faultless, size]
    rfl
  · refine answers_of_within (by simp) fun conditions faultless => ?_
    have quiet := Conditions.strikes_of_faultless faultless .leaves
    rw [within, Ledger.leaves_of_dense quiet dense]
    rfl
  · intro position inside
    refine answers_of_within (by simp) fun conditions faultless => ?_
    have counted : Statement.fits position = true := by
      rw [Statement.fits_iff] at fits ⊢
      omega
    rw [within, Ledger.get_of_inside dense position counted inside]
    rfl
  · intro leaf counted outside
    rw [size] at outside
    refine refuses_of_within (by simp) rfl fun conditions faultless => ?_
    rw [within, Ledger.get_of_outside dense leaf counted outside]
    rfl
  · intro commitment leaf counted
    refine answers_of_within (by simp) fun conditions faultless => ?_
    rw [within, Ledger.contains_of_dense dense commitment leaf counted]
    rfl
  · intro commitment position first
    refine answers_of_within (by simp) fun conditions faultless => ?_
    rw [within, Ledger.find_of_dense dense, first]
    rfl
  · intro commitment absent
    refine refuses_of_within (by simp) rfl fun conditions faultless => ?_
    rw [within, Ledger.find_of_not_mem absent]
    rfl

section Append

variable (dense : session.working.Dense)

include dense

theorem accepts_of_dense (commitment : Bytes) {leafIndex : Option Int}
    (next : leafIndex = none ∨ leafIndex = some (session.working.commitments.length : Int))
    (faultless : conditions.faults = []) :
    session.step .declared conditions (.append commitment leafIndex) =
      (.ok (.number session.working.commitments.length), false,
        { session with working := session.working.staged commitment }) := by
  have wanted : leafIndex.getD session.working.commitments.length = session.working.commitments.length := by
    rcases next with rfl | rfl <;> rfl
  rw [step_of_plain _ _ _ (by simp), within, Ledger.append_of_dense faultless dense]
  simp only [wanted, Int.lt_irrefl, if_false]
  rfl

theorem taken_of_dense (commitment : Bytes) {leaf : Int}
    (before : leaf < session.working.commitments.length) :
    session.Refuses (.append commitment (some leaf)) .duplicateLeaf
      (.leafTaken leaf session.working.commitments.length) := by
  refine refuses_of_within (by simp) rfl fun conditions faultless => ?_
  rw [within, Ledger.append_of_dense faultless dense]
  simp only [Option.getD_some, if_pos before]
  rfl

theorem beyond_of_dense (commitment : Bytes) {leaf : Int}
    (behind : session.working.commitments.length < leaf) :
    session.Refuses (.append commitment (some leaf)) .integrityViolation
      (.leafBeyondNext leaf session.working.commitments.length) := by
  have notBefore : ¬leaf < session.working.commitments.length := by omega
  refine refuses_of_within (by simp) rfl fun conditions faultless => ?_
  rw [within, Ledger.append_of_dense faultless dense]
  simp only [Option.getD_some, if_neg notBefore, if_pos behind]
  rfl

theorem appendsTo_of_dense : session.AppendsTo session.working.commitments := by
  refine ⟨?_, ?_, ?_, ?_⟩
  · intro commitment leafIndex next conditions faultless
    exact ⟨_, accepts_of_dense dense commitment next faultless, Tables.commitments_staged _ _⟩
  · intro commitment leaf before
    exact taken_of_dense dense commitment before
  · intro commitment leaf behind
    exact beyond_of_dense dense commitment behind
  · intro commitment
    rw [Tables.commitments_length]
    exact ⟨_, Tables.run_insertIdentity_next dense⟩

end Append

/-! ## Any number of appends -/

structure Appending where
  commitment : Bytes
  /-- The leaf that is asked for. -/
  leafIndex : Option Int := none
  conditions : Conditions := {}

def Appending.operation (call : Appending) : Operation :=
  .append call.commitment call.leafIndex

def afterAppends (session : Session) (calls : List Appending) : Session :=
  calls.foldl (fun session call => session.after (call.conditions, call.operation)) session

/-- The commitments of the calls that the session answers and does not refuse. -/
def accepted : Session → List Appending → List Bytes
  | _, [] => []
  | session, call :: rest =>
      let behind := accepted (session.after (call.conditions, call.operation)) rest
      match (session.step .declared call.conditions call.operation).1 with
      | .ok _ => call.commitment :: behind
      | .error _ => behind

theorem step_append_cases (dense : session.working.Dense) (call : Appending)
    (faultless : call.conditions.faults = []) :
    (∃ refusal, session.step .declared call.conditions call.operation =
        (.error (.refused refusal), false, session)) ∨
      ∃ answer, session.step .declared call.conditions call.operation =
        (.ok answer, false, { session with working := session.working.staged call.commitment }) := by
  rw [Appending.operation]
  cases call.leafIndex with
  | none => exact Or.inr ⟨_, accepts_of_dense dense _ (Or.inl rfl) faultless⟩
  | some leaf =>
      rcases Int.lt_trichotomy leaf session.working.commitments.length with before | same | behind
      · exact Or.inl ⟨_, (taken_of_dense dense _ before _ faultless).2⟩
      · exact Or.inr ⟨_, accepts_of_dense dense _ (Or.inr (congrArg some same)) faultless⟩
      · exact Or.inl ⟨_, (beyond_of_dense dense _ behind _ faultless).2⟩

theorem after_append_of_dense (dense : session.working.Dense) (call : Appending)
    (faultless : call.conditions.faults = []) :
    let later := session.after (call.conditions, call.operation)
    later.working.Dense ∧
      later.working.commitments = session.working.commitments ++ session.accepted [call] := by
  intro later
  rcases step_append_cases dense call faultless with ⟨refusal, refused⟩ | ⟨answer, answered⟩
  · have same : later = session := by simp only [later, after, refused]
    rw [same]
    exact ⟨dense, by simp [accepted, refused]⟩
  · have staged : later = { session with working := session.working.staged call.commitment } := by
      simp only [later, after, answered]
    rw [staged]
    refine ⟨Tables.dense_staged dense call.commitment, ?_⟩
    rw [Tables.commitments_staged]
    simp [accepted, answered]

theorem accepted_cons (session : Session) (call : Appending) (rest : List Appending) :
    session.accepted (call :: rest) =
      session.accepted [call] ++ (session.after (call.conditions, call.operation)).accepted rest := by
  simp only [accepted]
  split <;> rfl

theorem afterAppends_of_dense (dense : session.working.Dense) (calls : List Appending)
    (faultless : ∀ call ∈ calls, call.conditions.faults = []) :
    (session.afterAppends calls).working.Dense ∧
      (session.afterAppends calls).working.commitments =
        session.working.commitments ++ session.accepted calls := by
  induction calls generalizing session with
  | nil => exact ⟨dense, by simp [afterAppends, accepted]⟩
  | cons call rest inductionHypothesis =>
      obtain ⟨denseNext, grown⟩ := after_append_of_dense dense call (faultless call (by simp))
      obtain ⟨denseLast, grownLast⟩ := inductionHypothesis denseNext
        fun later member => faultless later (List.mem_cons_of_mem call member)
      refine ⟨denseLast, ?_⟩
      rw [accepted_cons, ← List.append_assoc, ← grown]
      exact grownLast

/-- After any calls of append on a dense ledger, a session answers and appends as to one list: the commitments
at the beginning, followed by those of the accepted calls. -/
theorem ledger_is_list (session : Session) (dense : session.working.Dense) (calls : List Appending)
    (faultless : ∀ call ∈ calls, call.conditions.faults = []) :
    let list := session.working.commitments ++ session.accepted calls
    let later := session.afterAppends calls
    Statement.fits list.length = true → later.ReadsAs list ∧ later.AppendsTo list := by
  intro list later fits
  obtain ⟨denseLater, grown⟩ := afterAppends_of_dense dense calls faultless
  have same : later.working.commitments = list := grown
  rw [← same] at fits ⊢
  exact ⟨readsAs_of_dense denseLater fits, appendsTo_of_dense denseLater⟩

/-- One commitment is stored, and four more are to be: at the next leaf, at one that is taken, at the end and
far behind it. -/
theorem ledger_is_list_oneStored :
    let tables : Tables := { identities := [{ leafIndex := 0, commitment := [1] }] }
    let session : Session := { committed := tables, working := tables }
    let calls : List Appending :=
      [{ commitment := [2] }, { commitment := [3], leafIndex := some 1 },
       { commitment := [1], leafIndex := some 2 }, { commitment := [4], leafIndex := some 9 }]
    tables.Dense ∧ (∀ call ∈ calls, call.conditions.faults = []) ∧
      Statement.fits ([[1], [2], [1]] : List Bytes).length = true ∧
      (session.afterAppends calls).ReadsAs [[1], [2], [1]] ∧
      (session.afterAppends calls).AppendsTo [[1], [2], [1]] := by
  intro tables session calls
  have dense : tables.Dense := by decide
  have faultless : ∀ call ∈ calls, call.conditions.faults = [] := by simp [calls]
  have list : session.working.commitments ++ session.accepted calls = [[1], [2], [1]] := by
    decide +kernel
  have answers := ledger_is_list session dense calls faultless
  rw [list] at answers
  obtain ⟨reads, appends⟩ := answers (by decide)
  exact ⟨dense, faultless, by decide, reads, appends⟩

end Session

end CommitmentLog
