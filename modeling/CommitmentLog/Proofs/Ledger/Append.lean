import CommitmentLog.Ledger
import CommitmentLog.Proofs.Outcome
import CommitmentLog.Proofs.Store.Insertion

/-!
# Appending to the ledger

A commitment that has been appended stands at the leaf that the number of identities gives, and no other
identity has changed.  Integers of the ledger must be such that a statement can name them.
-/

set_option autoImplicit false

namespace CommitmentLog.Store.Statement

theorem fits_iff (value : Int) :
    fits value = true ↔ -9223372036854775808 ≤ value ∧ value ≤ 9223372036854775807 := by
  rw [fits, Bool.and_eq_true, decide_eq_true_eq, decide_eq_true_eq]
  exact Iff.rfl

theorem fits_of_succ {size : Nat} (fit : fits (size + 1) = true) : fits size = true := by
  rw [fits_iff] at fit ⊢
  omega

end CommitmentLog.Store.Statement

namespace CommitmentLog.Ledger

open Store

variable {schema : Schema} {conditions : Conditions} {tables : Tables} {commitment : Bytes}

theorem bound_of_fits {value : Int} (fit : Statement.fits value = true) :
    bound value = .ok value := by
  rw [bound, if_pos fit]

theorem bound_of_not_fits {value : Int} (large : ¬Statement.fits value = true) :
    bound value = .error .integerTooLarge := by
  rw [bound, if_neg large]

theorem mapM_bound (cursor : Option Int) :
    cursor.mapM bound =
      if ∀ value ∈ cursor, Statement.fits value = true then .ok cursor
      else .error .integerTooLarge := by
  cases cursor with
  | none =>
      rw [if_pos (by simp)]
      rfl
  | some value =>
      by_cases fit : Statement.fits value = true
      · rw [Option.mapM_some, bound_of_fits fit, if_pos (by simpa using fit)]
        rfl
      · rw [Option.mapM_some, bound_of_not_fits fit, if_neg (by simpa using fit)]
        rfl

theorem count_ok {counted : Nat} (ok : count conditions tables = .ok counted) :
    counted = tables.identities.length := by
  unfold count at ok
  split at ok
  · cases ok
  · exact (Except.ok.inj ok).symm

theorem append_ok {leafIndex : Option Int} {next : Int} {after : Tables}
    (appended : append schema conditions tables commitment leafIndex = .ok (next, after)) :
    next = tables.identities.length ∧
      schema.identities.takes identityLayout tables.identities { leafIndex := next, commitment } = true ∧
      after = { tables with
        identities := place (·.leafIndex) { leafIndex := next, commitment } tables.identities } := by
  obtain ⟨counted, countOk, appended⟩ := bind_ok appended
  rw [count_ok countOk] at appended
  simp only at appended
  split at appended
  · cases appended
  · split at appended
    · cases appended
    · split at appended
      case h_1 stored written =>
        cases appended
        obtain ⟨taken, placed⟩ := Conditions.write_insertIdentity_ok written
        exact ⟨rfl, taken, placed⟩
      case h_2 => cases appended
      case h_3 => cases appended

theorem put_ok {identity : Identity} {after : Tables}
    (stored : put schema conditions tables identity = .ok after) :
    after = { tables with identities := place (·.leafIndex) identity tables.identities } := by
  unfold put at stored
  split at stored
  · cases stored
  · obtain ⟨_, _, stored⟩ := bind_ok stored
    exact (Conditions.write_insertIdentity_ok (mapError_ok stored)).2

end CommitmentLog.Ledger
