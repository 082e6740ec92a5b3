import CommitmentLog.Proofs.Time.Calendar
import CommitmentLog.Time.Timestamp

/-!
# Instants

A timestamp is converted to universal time exactly if its instant lies between the first and the last moment
of the calendar, and it becomes the civil time that is measured by the instant.  So the civil times compare as
the instants do, and timestamps of one instant become the same civil time.
-/

set_option autoImplicit false

namespace CommitmentLog

namespace Civil

theorem elapsed_le_lastMoment {civil : Civil} (valid : civil.Valid) :
    civil.elapsed ≤ lastMoment.elapsed := by
  by_contra beyond
  have unread := (ofElapsed?_eq_none_iff civil.elapsed).mpr (Nat.lt_of_not_le beyond)
  rw [ofElapsed?_elapsed valid] at unread
  cases unread

end Civil

namespace Timestamp

open Civil (firstMoment lastMoment)

theorem instant_of_naive {timestamp : Timestamp} (naive : timestamp.offset = none) :
    timestamp.instant = timestamp.civil.elapsed := by
  rw [instant, naive, Option.getD_none, Int.zero_mul, Int.sub_zero]

theorem instant_ofCivil (civil : Civil) : (ofCivil civil).instant = civil.elapsed :=
  instant_of_naive rfl

theorem isBefore?_ofCivil (first second : Civil) :
    (ofCivil first).isBefore? (ofCivil second) =
      some (decide (first.elapsed < second.elapsed)) := by
  have comparable : (ofCivil first).offset.isSome =
      (ofCivil second).offset.isSome := rfl
  rw [isBefore?, if_pos comparable, instant_ofCivil, instant_ofCivil]
  simp only [Int.ofNat_lt]

variable {timestamp first second : Timestamp} {civil : Civil}

theorem toUniversal?_of_naive (naive : timestamp.offset = none) :
    timestamp.toUniversal? = some timestamp.civil := by
  rw [toUniversal?, naive]

theorem toUniversal?_of_offset (aware : timestamp.offset.isSome) :
    timestamp.toUniversal? =
      if timestamp.instant < 0 then none else Civil.ofElapsed? timestamp.instant.toNat := by
  obtain ⟨east, offset⟩ := Option.isSome_iff_exists.mp aware
  rw [toUniversal?, offset]

theorem toUniversal?_eq_some_iff (valid : timestamp.civil.Valid) :
    timestamp.toUniversal? = some civil ↔ civil.Valid ∧ (civil.elapsed : Int) = timestamp.instant := by
  cases offset : timestamp.offset with
  | none =>
      rw [toUniversal?_of_naive offset, instant_of_naive offset, Option.some.injEq, Int.ofNat_inj]
      constructor
      · rintro rfl
        exact ⟨valid, rfl⟩
      · rintro ⟨civilValid, same⟩
        exact Civil.elapsed_injective valid civilValid same.symm
  | some east =>
      rw [toUniversal?_of_offset (by rw [offset]; rfl)]
      split
      case isTrue before =>
        constructor
        · intro none_
          cases none_
        · rintro ⟨_, same⟩
          omega
      case isFalse since =>
        rw [Civil.ofElapsed?_eq_some_iff]
        exact and_congr_right fun _ => by omega

def InCalendar (timestamp : Timestamp) : Prop :=
  (firstMoment.elapsed : Int) ≤ timestamp.instant ∧ timestamp.instant ≤ lastMoment.elapsed

instance (timestamp : Timestamp) : Decidable timestamp.InCalendar :=
  inferInstanceAs (Decidable (_ ∧ _))

theorem toUniversal?_eq_none_iff (valid : timestamp.civil.Valid) :
    timestamp.toUniversal? = none ↔ ¬timestamp.InCalendar := by
  rw [InCalendar, Civil.elapsed_firstMoment]
  cases offset : timestamp.offset with
  | none =>
      have within := Civil.elapsed_le_lastMoment valid
      rw [toUniversal?_of_naive offset, instant_of_naive offset]
      simp only [reduceCtorEq, false_iff]
      omega
  | some east =>
      rw [toUniversal?_of_offset (by rw [offset]; rfl)]
      split
      case isTrue before =>
        simp only [true_iff]
        omega
      case isFalse since =>
        rw [Civil.ofElapsed?_eq_none_iff]
        omega

/-- Two timestamps of the calendar that name one instant. -/
structure SameInstant (first second : Timestamp) : Prop where
  firstValid : first.civil.Valid
  secondValid : second.civil.Valid
  same : first.instant = second.instant

theorem SameInstant.toUniversal?_eq (times : first.SameInstant second) :
    first.toUniversal? = second.toUniversal? := by
  ext civil
  rw [toUniversal?_eq_some_iff times.firstValid, toUniversal?_eq_some_iff times.secondValid, times.same]

section Compared

variable {firstShown secondShown : Civil} (firstValid : first.civil.Valid)
  (secondValid : second.civil.Valid) (firstConverted : first.toUniversal? = some firstShown)
  (secondConverted : second.toUniversal? = some secondShown)

include firstValid secondValid firstConverted secondConverted

theorem compare_universal :
    (ofCivil firstShown).isBefore? (ofCivil secondShown) =
        some (decide (first.instant < second.instant)) ∧
      (firstShown.fields < secondShown.fields ↔ first.instant < second.instant) ∧
      (firstShown = secondShown ↔ first.instant = second.instant) := by
  obtain ⟨firstReal, firstSame⟩ := (toUniversal?_eq_some_iff firstValid).mp firstConverted
  obtain ⟨secondReal, secondSame⟩ := (toUniversal?_eq_some_iff secondValid).mp secondConverted
  rw [isBefore?_ofCivil, ← Civil.elapsed_lt_iff firstReal secondReal, ← firstSame, ← secondSame]
  refine ⟨by simp only [Int.ofNat_lt], Int.ofNat_lt.symm, ?_⟩
  constructor
  · rintro rfl
    rfl
  · intro same
    exact Civil.elapsed_injective firstReal secondReal (Int.ofNat_inj.mp same)

end Compared

end Timestamp

end CommitmentLog
