import CommitmentLog.Store.Write

/-!
# What strikes

Conditions under which no fault strikes, and conditions under which exactly one does.  The writes of an
operation are told apart by their numbers.  Any other statement fails wherever it is carried out, so the first
time decides.
-/

set_option autoImplicit false

namespace CommitmentLog

open Store

/-- The faults that stand for an error of the database at one statement. -/
def Fault.OfDatabase : Fault → Prop
  | .leaves | .count | .commit | .update | .write _ .operational => True
  | .insertionAway | .insertionRefused | .hasherCrash | .hasherStuck | .write _ .integrity => False

instance : DecidablePred Fault.OfDatabase
  | .leaves | .count | .commit | .update | .write _ .operational => inferInstanceAs (Decidable True)
  | .insertionAway | .insertionRefused | .hasherCrash | .hasherStuck | .write _ .integrity =>
      inferInstanceAs (Decidable False)

namespace Conditions

variable {conditions : Conditions} {fault : Fault}

/-! ## Without faults -/

theorem strikes_of_faultless (faultless : conditions.faults = []) (fault : Fault) :
    conditions.strikes fault = false := by
  simp [strikes, faultless]

theorem write_of_faultless (faultless : conditions.faults = []) (schema : Schema) (offset : Nat)
    (tables after : Tables) (statement : Statement) (touched : Nat)
    (ran : statement.run schema tables = some (after, touched)) :
    conditions.write schema offset tables statement = .ok after := by
  have quiet : conditions.writeError? offset = none := by
    simp [writeError?, strikes_of_faultless faultless]
  rw [write, quiet]
  simp only [ran]

/-! ## One fault -/

def struckBy (conditions : Conditions) (fault : Fault) : Conditions :=
  { conditions with faults := [fault] }

theorem strikes_struckBy (conditions : Conditions) (fault other : Fault) :
    (conditions.struckBy fault).strikes other = true ↔ fault = other := by
  simp [strikes, struckBy, eq_comm]

theorem strikes_struckBy_of_ne (conditions : Conditions) {other : Fault} (apart : fault ≠ other) :
    (conditions.struckBy fault).strikes other = false :=
  Bool.eq_false_iff.mpr fun struck => apart ((strikes_struckBy conditions fault other).mp struck)

theorem strikes_struckBy_of_not_ofDatabase (conditions : Conditions) (ofDatabase : fault.OfDatabase)
    (other : Fault) (beyond : ¬other.OfDatabase) :
    (conditions.struckBy fault).strikes other = false := by
  apply strikes_struckBy_of_ne
  intro same
  exact beyond (same ▸ ofDatabase)

theorem write_of_struck (schema : Schema) (offset : Nat) (tables : Tables) (statement : Statement)
    (struck : fault = .write (conditions.written + offset + 1) .operational) :
    (conditions.struckBy fault).write schema offset tables statement = .error .operational := by
  have strikes := (strikes_struckBy conditions fault _).mpr struck
  have number : (conditions.struckBy fault).written = conditions.written := rfl
  simp [write, writeError?, number, strikes]

theorem write_of_spared (faultless : conditions.faults = []) (ofDatabase : fault.OfDatabase)
    (schema : Schema) (offset : Nat) (tables : Tables) (statement : Statement)
    (spared : fault ≠ .write (conditions.written + offset + 1) .operational) :
    (conditions.struckBy fault).write schema offset tables statement =
      conditions.write schema offset tables statement := by
  have number : (conditions.struckBy fault).written = conditions.written := rfl
  have accepted := strikes_struckBy_of_not_ofDatabase conditions ofDatabase
    (.write (conditions.written + offset + 1) .integrity) id
  have carried := strikes_struckBy_of_ne conditions spared
  simp [write, writeError?, number, carried, accepted, strikes_of_faultless faultless]

end Conditions

end CommitmentLog
