import CommitmentLog.Ledger
import Mathlib.Data.List.Range

/-!
# Dense ledgers

A ledger is dense if its leaves are 0, 1, 2 and so on without a gap.  Reading all leaves succeeds exactly
for the dense ledgers.  The same notion, counted from one, serves for the lengths of the prefixes that have
a checkpoint.
-/

set_option autoImplicit false

namespace CommitmentLog

def CountsFrom (start : Nat) (numbers : List Int) : Prop :=
  numbers = (List.range' start numbers.length).map fun number : Nat => (number : Int)

instance (start : Nat) (numbers : List Int) : Decidable (CountsFrom start numbers) :=
  inferInstanceAs (Decidable (_ = _))

theorem countsFrom_nil (start : Nat) : CountsFrom start [] := rfl

theorem countsFrom_cons (start : Nat) (number : Int) (rest : List Int) :
    CountsFrom start (number :: rest) ↔ number = start ∧ CountsFrom (start + 1) rest := by
  simp [CountsFrom, List.range'_succ]

theorem countsFrom_concat (start : Nat) (numbers : List Int) (last : Int) :
    CountsFrom start (numbers ++ [last]) ↔
      CountsFrom start numbers ∧ last = (start + numbers.length : Nat) := by
  induction numbers generalizing start with
  | nil => simp [CountsFrom]
  | cons first rest inductionHypothesis =>
      rw [List.cons_append, countsFrom_cons, countsFrom_cons, inductionHypothesis, and_assoc,
        List.length_cons, Nat.add_right_comm start 1 rest.length, Nat.add_assoc]

theorem CountsFrom.getElem {start : Nat} {numbers : List Int} (counts : CountsFrom start numbers)
    (position : Nat) (inside : position < numbers.length) :
    numbers[position] = (start + position : Nat) := by
  have same := congrArg (fun list : List Int => list[position]?) counts
  simpa [inside] using same

theorem countsFrom_of_getElem {start : Nat} {numbers : List Int}
    (each : ∀ (position : Nat) (inside : position < numbers.length),
      numbers[position] = (start + position : Nat)) : CountsFrom start numbers := by
  apply List.ext_getElem
  · simp
  · intro position inside _
    rw [each position inside]
    simp

namespace Tables

def Dense (tables : Tables) : Prop :=
  CountsFrom 0 (tables.identities.map (·.leafIndex))

instance (tables : Tables) : Decidable tables.Dense :=
  inferInstanceAs (Decidable (CountsFrom _ _))

end Tables

namespace Ledger

/-- Commitments are read from identities that count up, and a gap is refused otherwise. -/
theorem consecutive_eq (start : Nat) (identities : List Identity) :
    (CountsFrom start (identities.map (·.leafIndex)) ∧
        consecutive start identities = .ok (identities.map (·.commitment))) ∨
      (¬CountsFrom start (identities.map (·.leafIndex)) ∧
        ∃ expected found, consecutive start identities = .error (.leafGap expected found)) := by
  induction identities generalizing start with
  | nil => exact Or.inl ⟨countsFrom_nil start, rfl⟩
  | cons first rest inductionHypothesis =>
      rw [List.map_cons, countsFrom_cons, consecutive]
      by_cases here : first.leafIndex = start
      · rw [if_pos here]
        rcases inductionHypothesis (start + 1) with ⟨counts, read⟩ | ⟨gap, expected, found, refused⟩
        · left
          rw [Int.natCast_add, Int.natCast_one] at read
          exact ⟨⟨here, counts⟩, by simp [read]⟩
        · right
          rw [Int.natCast_add, Int.natCast_one] at refused
          exact ⟨fun both => gap both.2, expected, found, by simp [refused]⟩
      · right
        rw [if_neg here]
        exact ⟨fun both => here both.1, start, first.leafIndex, rfl⟩

variable {conditions : Conditions} {tables : Tables}

theorem leaves_of_dense (working : conditions.strikes .leaves = false) (dense : tables.Dense) :
    leaves conditions tables = .ok tables.commitments := by
  rcases consecutive_eq 0 tables.identities with ⟨_, read⟩ | ⟨gap, _⟩
  · rw [Int.natCast_zero] at read
    simp only [leaves, working, Bool.false_eq_true, if_false, read]
    rfl
  · exact absurd dense gap

theorem leaves_of_not_dense (working : conditions.strikes .leaves = false) (gap : ¬tables.Dense) :
    ∃ expected found,
      leaves conditions tables = .error (.refused (.leafGap expected found)) := by
  rcases consecutive_eq 0 tables.identities with ⟨counts, _⟩ | ⟨_, expected, found, refused⟩
  · exact absurd counts gap
  · refine ⟨expected, found, ?_⟩
    rw [Int.natCast_zero] at refused
    simp only [leaves, working, Bool.false_eq_true, if_false, refused]
    rfl

theorem reads_of_leaves_ok {commitments : List Bytes}
    (read : leaves conditions tables = .ok commitments) : conditions.strikes .leaves = false := by
  cases striking : conditions.strikes .leaves with
  | true => simp [leaves, striking] at read
  | false => rfl

theorem leaves_ok {commitments : List Bytes} (read : leaves conditions tables = .ok commitments) :
    tables.Dense ∧ commitments = tables.commitments := by
  have working := reads_of_leaves_ok read
  by_cases dense : tables.Dense
  · rw [leaves_of_dense working dense] at read
    cases read
    exact ⟨dense, rfl⟩
  · obtain ⟨expected, found, refused⟩ := leaves_of_not_dense working dense
    rw [refused] at read
    cases read

end Ledger

end CommitmentLog
