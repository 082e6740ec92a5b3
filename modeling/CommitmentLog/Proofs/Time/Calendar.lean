import CommitmentLog.Time.Civil
import Mathlib.Algebra.Ring.Nat
import Mathlib.Data.List.Lex

/-!
# The calendar

The measure of a civil time counts through the calendar: no two civil times have the same measure, every
number up to that of the last moment is the measure of one, and the later of two civil times, compared field
by field, is the one with the greater measure.  Reading a measure back gives the civil time that has it.
-/

set_option autoImplicit false

namespace CommitmentLog.Civil

/-! ## Years -/

def yearLength (year : Nat) : Nat :=
  (monthLengths year).sum

theorem yearLength_eq (year : Nat) : yearLength year = if isLeap year then 366 else 365 := by
  rw [yearLength, monthLengths]
  cases isLeap year <;> rfl

theorem isLeap_iff (year : Nat) :
    isLeap year = true ↔ year % 4 = 0 ∧ (year % 100 ≠ 0 ∨ year % 400 = 0) := by
  simp [isLeap]

/-- A leap day is counted for every fourth year, but for the centuries only for every fourth of them. -/
theorem daysBeforeYear_succ {year : Nat} (first : 1 ≤ year) :
    daysBeforeYear (year + 1) = daysBeforeYear year + yearLength year := by
  obtain ⟨whole, rfl⟩ := Nat.exists_eq_add_of_le' first
  have fours := Nat.succ_div (a := whole) (b := 4)
  have centuries := Nat.succ_div (a := whole) (b := 100)
  have fourCenturies := Nat.succ_div (a := whole) (b := 400)
  have fewer : whole / 100 ≤ whole / 4 := Nat.div_le_div_left (by decide) (by decide)
  simp only [Nat.dvd_iff_mod_eq_zero] at fours centuries fourCenturies
  simp only [yearLength_eq, isLeap_iff, daysBeforeYear, Nat.add_sub_cancel, fours, centuries, fourCenturies]
  by_cases four : (whole + 1) % 4 = 0
  · by_cases century : (whole + 1) % 100 = 0
    · by_cases fourCentury : (whole + 1) % 400 = 0
      · rw [if_pos four, if_pos century, if_pos fourCentury, if_pos ⟨four, Or.inr fourCentury⟩]
        omega
      · rw [if_pos four, if_pos century, if_neg fourCentury, if_neg (by omega)]
        omega
    · rw [if_pos four, if_neg century, if_neg (by omega), if_pos ⟨four, Or.inl century⟩]
      omega
  · rw [if_neg four, if_neg (by omega), if_neg (by omega), if_neg (by omega)]
    omega

theorem daysBeforeYear_mono {first second : Nat} (start : 1 ≤ first) (le : first ≤ second) :
    daysBeforeYear first ≤ daysBeforeYear second := by
  induction le with
  | refl => exact Nat.le_refl _
  | step later inductionHypothesis =>
      rw [daysBeforeYear_succ (Nat.le_trans start later)]
      omega

theorem yearOfDay_spec (day : Nat) :
    1 ≤ yearOfDay day ∧ daysBeforeYear (yearOfDay day) ≤ day ∧
      day < daysBeforeYear (yearOfDay day + 1) := by
  simp only [yearOfDay]
  split
  · simp only [daysBeforeYear] at *
    omega
  · split
    · simp only [daysBeforeYear] at *
      omega
    · simp only [daysBeforeYear] at *
      omega

theorem yearOfDay_eq {day year : Nat} (begun : daysBeforeYear year ≤ day)
    (unended : day < daysBeforeYear (year + 1)) : yearOfDay day = year := by
  obtain ⟨start, reached, open_⟩ := yearOfDay_spec day
  rcases Nat.lt_trichotomy (yearOfDay day) year with before | same | behind
  · have later := daysBeforeYear_mono (Nat.le_add_left 1 _) (Nat.succ_le_of_lt before)
    omega
  · exact same
  · have later := daysBeforeYear_mono (Nat.le_add_left 1 _) (Nat.succ_le_of_lt behind)
    omega

/-! ## Months -/

theorem monthOfDay_spec (lengths : List Nat) (day : Nat) (inside : day < lengths.sum) :
    ∃ length, lengths[(monthOfDay lengths day).1]? = some length ∧
      (monthOfDay lengths day).2 < length ∧
      (lengths.take (monthOfDay lengths day).1).sum + (monthOfDay lengths day).2 = day := by
  induction lengths generalizing day with
  | nil => cases inside
  | cons length rest inductionHypothesis =>
      rw [List.sum_cons] at inside
      rw [monthOfDay]
      split
      case isTrue here => exact ⟨length, rfl, here, by simp⟩
      case isFalse later =>
        obtain ⟨found, stands, left, total⟩ := inductionHypothesis (day - length) (by omega)
        refine ⟨found, stands, left, ?_⟩
        simp only [List.take_succ_cons, List.sum_cons]
        omega

theorem monthOfDay_take (lengths : List Nat) (months left length : Nat)
    (here : lengths[months]? = some length) (inside : left < length) :
    monthOfDay lengths ((lengths.take months).sum + left) = (months, left) := by
  induction lengths generalizing months with
  | nil => cases here
  | cons first rest inductionHypothesis =>
      cases months with
      | zero =>
          cases here
          simp [monthOfDay, inside]
      | succ months =>
          have behind : ¬(first + (rest.take months).sum + left < first) := by omega
          have remaining : first + (rest.take months).sum + left - first =
              (rest.take months).sum + left := by omega
          rw [List.take_succ_cons, List.sum_cons, monthOfDay, if_neg behind, remaining,
            inductionHypothesis months here]

theorem daysBeforeMonth_eq (year month : Nat) :
    daysBeforeMonth year month = ((monthLengths year).take (month - 1)).sum := by
  rw [daysBeforeMonth, List.sum_eq_foldl]

variable {civil first second : Civil}

def dayOfYear (civil : Civil) : Nat :=
  daysBeforeMonth civil.year civil.month + (civil.day - 1)

theorem monthLengths_getElem? {year month : Nat} (start : 1 ≤ month) (unended : month ≤ 12) :
    (monthLengths year)[month - 1]? = some (daysInMonth year month) := by
  have inside : month - 1 < (monthLengths year).length := by
    have twelve : (monthLengths year).length = 12 := rfl
    omega
  rw [daysInMonth, if_neg (by omega), List.getD_eq_getElem?_getD, List.getElem?_eq_getElem inside]
  rfl

theorem monthOfDay_dayOfYear (valid : civil.Valid) :
    monthOfDay (monthLengths civil.year) civil.dayOfYear = (civil.month - 1, civil.day - 1) := by
  obtain ⟨_, _, monthStart, monthEnd, dayStart, dayEnd, _⟩ := valid
  rw [dayOfYear, daysBeforeMonth_eq]
  exact monthOfDay_take _ _ _ _ (monthLengths_getElem? monthStart monthEnd) (by omega)

theorem daysBeforeMonth_succ {year month : Nat} (start : 1 ≤ month) (unended : month ≤ 12) :
    daysBeforeMonth year (month + 1) = daysBeforeMonth year month + daysInMonth year month := by
  have next : month + 1 - 1 = month - 1 + 1 := by omega
  rw [daysBeforeMonth_eq, daysBeforeMonth_eq, next, List.take_add_one,
    monthLengths_getElem? start unended, List.sum_append]
  simp

theorem daysBeforeMonth_mono (year : Nat) {first second : Nat} (start : 1 ≤ first) (le : first ≤ second)
    (unended : second ≤ 13) : daysBeforeMonth year first ≤ daysBeforeMonth year second := by
  induction le with
  | refl => exact Nat.le_refl _
  | step later inductionHypothesis =>
      rw [daysBeforeMonth_succ (Nat.le_trans start later) (by omega)]
      exact Nat.le_trans (inductionHypothesis (by omega)) (Nat.le_add_right _ _)

theorem daysBeforeMonth_thirteen (year : Nat) : daysBeforeMonth year 13 = yearLength year := by
  rw [daysBeforeMonth_eq]
  rfl

theorem dayOfYear_lt_month (valid : civil.Valid) :
    civil.dayOfYear < daysBeforeMonth civil.year (civil.month + 1) := by
  obtain ⟨_, _, monthStart, monthEnd, dayStart, dayEnd, _⟩ := valid
  rw [dayOfYear, daysBeforeMonth_succ monthStart monthEnd]
  omega

theorem dayOfYear_lt (valid : civil.Valid) : civil.dayOfYear < yearLength civil.year := by
  have withinMonth := dayOfYear_lt_month valid
  have withinYear := daysBeforeMonth_mono civil.year (Nat.le_add_left 1 civil.month) (by
    have monthEnd := valid.2.2.2.1
    omega) (Nat.le_refl 13)
  rw [daysBeforeMonth_thirteen] at withinYear
  omega

/-! ## Dates -/

theorem dayNumber_eq (civil : Civil) :
    civil.dayNumber = daysBeforeYear civil.year + civil.dayOfYear := by
  rw [dayNumber, dayOfYear, Nat.add_assoc]

theorem dayNumber_lt (valid : civil.Valid) : civil.dayNumber < daysBeforeYear (civil.year + 1) := by
  have inside := dayOfYear_lt valid
  rw [dayNumber_eq, daysBeforeYear_succ valid.1]
  omega

theorem yearOfDay_dayNumber (valid : civil.Valid) : yearOfDay civil.dayNumber = civil.year := by
  refine yearOfDay_eq ?_ (dayNumber_lt valid)
  rw [dayNumber_eq]
  exact Nat.le_add_right _ _

/-! ## Times of the day -/

theorem timeOfDay_lt (valid : civil.Valid) : civil.timeOfDay < perDay := by
  obtain ⟨_, _, _, _, _, _, hour, minute, second, microsecond⟩ := valid
  simp only [timeOfDay, perDay, perSecond]
  omega

theorem timeOfDay_fields (valid : civil.Valid) :
    civil.timeOfDay / (3600 * perSecond) = civil.hour ∧
      civil.timeOfDay / (60 * perSecond) % 60 = civil.minute ∧
      civil.timeOfDay / perSecond % 60 = civil.second ∧
      civil.timeOfDay % perSecond = civil.microsecond := by
  obtain ⟨_, _, _, _, _, _, hour, minute, second, microsecond⟩ := valid
  simp only [timeOfDay, perSecond]
  refine ⟨?_, ?_, ?_, ?_⟩ <;> omega

theorem fields_timeOfDay {ofDay : Nat} (inside : ofDay < perDay) :
    (ofDay / (3600 * perSecond) < 24 ∧ ofDay / (60 * perSecond) % 60 < 60 ∧
        ofDay / perSecond % 60 < 60 ∧ ofDay % perSecond < 1000000) ∧
      ((ofDay / (3600 * perSecond) * 60 + ofDay / (60 * perSecond) % 60) * 60 +
        ofDay / perSecond % 60) * perSecond + ofDay % perSecond = ofDay := by
  simp only [perDay, perSecond] at *
  refine ⟨⟨?_, ?_, ?_, ?_⟩, ?_⟩ <;> omega

theorem elapsed_div (valid : civil.Valid) : civil.elapsed / perDay = civil.dayNumber := by
  have positive : 0 < perDay := by decide
  rw [elapsed, Nat.mul_comm, Nat.mul_add_div positive, Nat.div_eq_of_lt (timeOfDay_lt valid), Nat.add_zero]

theorem elapsed_mod (valid : civil.Valid) : civil.elapsed % perDay = civil.timeOfDay := by
  rw [elapsed, Nat.mul_comm, Nat.mul_add_mod, Nat.mod_eq_of_lt (timeOfDay_lt valid)]

/-! ## Measures -/

/-- The civil time of a day, counted from the first day of year 1, and a measure within it. -/
def ofParts (day ofDay : Nat) : Civil :=
  let year := yearOfDay day
  let parts := monthOfDay (monthLengths year) (day - daysBeforeYear year)
  { year, month := parts.1 + 1, day := parts.2 + 1
    hour := ofDay / (3600 * perSecond)
    minute := ofDay / (60 * perSecond) % 60
    second := ofDay / perSecond % 60
    microsecond := ofDay % perSecond }

theorem ofElapsed?_eq (microseconds : Nat) :
    ofElapsed? microseconds =
      if lastYear < yearOfDay (microseconds / perDay) then none
      else some (ofParts (microseconds / perDay) (microseconds % perDay)) := rfl

theorem ofParts_eq (valid : civil.Valid) : ofParts civil.dayNumber civil.timeOfDay = civil := by
  have ofYear : civil.dayNumber - daysBeforeYear civil.year = civil.dayOfYear := by
    rw [dayNumber_eq, Nat.add_sub_cancel_left]
  obtain ⟨hour, minute, second, microsecond⟩ := timeOfDay_fields valid
  rw [ofParts]
  simp only [yearOfDay_dayNumber valid, ofYear, monthOfDay_dayOfYear valid, hour, minute, second, microsecond]
  obtain ⟨_, _, monthStart, _, dayStart, _⟩ := valid
  rw [Nat.sub_add_cancel monthStart, Nat.sub_add_cancel dayStart]

theorem ofElapsed?_elapsed (valid : civil.Valid) : ofElapsed? civil.elapsed = some civil := by
  rw [ofElapsed?_eq, elapsed_div valid, elapsed_mod valid, yearOfDay_dayNumber valid,
    if_neg (Nat.not_lt.mpr valid.2.1), ofParts_eq valid]

theorem dayNumber_ofParts (day ofDay : Nat) : (ofParts day ofDay).dayNumber = day := by
  obtain ⟨start, begun, unended⟩ := yearOfDay_spec day
  rw [daysBeforeYear_succ start, yearLength] at unended
  obtain ⟨_, _, _, total⟩ :=
    monthOfDay_spec (monthLengths (yearOfDay day)) (day - daysBeforeYear (yearOfDay day)) (by omega)
  rw [dayNumber_eq, dayOfYear, daysBeforeMonth_eq]
  simp only [ofParts, Nat.add_sub_cancel, total]
  omega

theorem timeOfDay_ofParts {day ofDay : Nat} (inside : ofDay < perDay) :
    (ofParts day ofDay).timeOfDay = ofDay :=
  (fields_timeOfDay inside).2

theorem valid_ofParts {day ofDay : Nat} (known : yearOfDay day ≤ lastYear) (inside : ofDay < perDay) :
    (ofParts day ofDay).Valid := by
  obtain ⟨start, begun, unended⟩ := yearOfDay_spec day
  rw [daysBeforeYear_succ start, yearLength] at unended
  obtain ⟨length, stands, left, _⟩ :=
    monthOfDay_spec (monthLengths (yearOfDay day)) (day - daysBeforeYear (yearOfDay day)) (by omega)
  obtain ⟨hour, minute, second, microsecond⟩ := (fields_timeOfDay inside).1
  obtain ⟨months, found⟩ := List.getElem?_eq_some_iff.mp stands
  have twelve : (monthLengths (yearOfDay day)).length = 12 := rfl
  rw [twelve] at months
  have lengthHere : (monthLengths (yearOfDay day))[(ofParts day ofDay).month - 1]? = _ :=
    monthLengths_getElem? (Nat.le_add_left 1 _) months
  have same := Option.some.inj (lengthHere.symm.trans stands)
  have dayEnd : (ofParts day ofDay).day ≤ daysInMonth (yearOfDay day) (ofParts day ofDay).month := by
    rw [same]
    exact left
  exact ⟨start, known, Nat.le_add_left 1 _, months, Nat.le_add_left 1 _, dayEnd, hour, minute, second,
    microsecond⟩

theorem ofElapsed?_eq_some {microseconds : Nat} (read : ofElapsed? microseconds = some civil) :
    civil.Valid ∧ civil.elapsed = microseconds := by
  have inside := Nat.mod_lt microseconds (show 0 < perDay by decide)
  rw [ofElapsed?_eq] at read
  split at read
  case isTrue => cases read
  case isFalse known =>
    cases read
    refine ⟨valid_ofParts (Nat.le_of_not_lt known) inside, ?_⟩
    rw [elapsed, dayNumber_ofParts, timeOfDay_ofParts inside, Nat.mul_comm]
    exact Nat.div_add_mod microseconds perDay

theorem ofElapsed?_eq_some_iff {microseconds : Nat} :
    ofElapsed? microseconds = some civil ↔ civil.Valid ∧ civil.elapsed = microseconds := by
  constructor
  · exact ofElapsed?_eq_some
  · rintro ⟨valid, rfl⟩
    exact ofElapsed?_elapsed valid

/-! ## The first and the last moment -/

def firstMoment : Civil :=
  { year := 1, month := 1, day := 1 }

def lastMoment : Civil :=
  { year := 9999, month := 12, day := 31, hour := 23, minute := 59, second := 59, microsecond := 999999 }

theorem elapsed_firstMoment : firstMoment.elapsed = 0 := by decide

theorem elapsed_lastMoment : lastMoment.elapsed + 1 = daysBeforeYear 10000 * perDay := by decide

theorem lastYear_lt_yearOfDay_iff (day : Nat) :
    lastYear < yearOfDay day ↔ daysBeforeYear 10000 ≤ day := by
  obtain ⟨_, begun, unended⟩ := yearOfDay_spec day
  constructor
  · intro late
    exact Nat.le_trans (daysBeforeYear_mono (by decide) late) begun
  · intro later
    by_contra early
    have ended : daysBeforeYear (yearOfDay day + 1) ≤ daysBeforeYear 10000 :=
      daysBeforeYear_mono (Nat.le_add_left 1 _) (Nat.succ_le_succ (Nat.le_of_not_lt early))
    omega

theorem ofElapsed?_eq_none_iff (microseconds : Nat) :
    ofElapsed? microseconds = none ↔ lastMoment.elapsed < microseconds := by
  calc
    ofElapsed? microseconds = none ↔ lastYear < yearOfDay (microseconds / perDay) := by
      rw [ofElapsed?_eq]
      split <;> simp [*]
    _ ↔ daysBeforeYear 10000 ≤ microseconds / perDay := lastYear_lt_yearOfDay_iff _
    _ ↔ lastMoment.elapsed < microseconds := by
      rw [Nat.le_div_iff_mul_le (by decide), ← elapsed_lastMoment, Nat.succ_le_iff]

/-! ## Earlier and later -/

/-- The fields from the year to the microsecond, by which civil times are compared. -/
def fields (civil : Civil) : List Nat :=
  [civil.year, civil.month, civil.day, civil.hour, civil.minute, civil.second, civil.microsecond]

theorem dayNumber_lt_of_year_lt (firstValid : first.Valid) (before : first.year < second.year) :
    first.dayNumber < second.dayNumber := by
  have inside := dayNumber_lt firstValid
  have begun := daysBeforeYear_mono (Nat.le_add_left 1 first.year) before
  rw [dayNumber_eq second]
  omega

theorem dayNumber_lt_of_month_lt (firstValid : first.Valid) (secondValid : second.Valid)
    (sameYear : first.year = second.year) (before : first.month < second.month) :
    first.dayNumber < second.dayNumber := by
  have inside := dayOfYear_lt_month firstValid
  have unended : second.month ≤ 13 := Nat.le_succ_of_le secondValid.2.2.2.1
  have begun := daysBeforeMonth_mono first.year (Nat.le_add_left 1 first.month) before unended
  have later : daysBeforeMonth first.year second.month ≤ second.dayOfYear := by
    rw [dayOfYear, sameYear]
    exact Nat.le_add_right _ _
  rw [dayNumber_eq, dayNumber_eq, sameYear]
  omega

theorem elapsed_lt_of_dayNumber_lt (firstValid : first.Valid)
    (before : first.dayNumber < second.dayNumber) : first.elapsed < second.elapsed := by
  have inside := timeOfDay_lt firstValid
  simp only [elapsed, perDay, perSecond] at *
  omega

theorem elapsed_lt_of_fields_lt (firstValid : first.Valid) (secondValid : second.Valid)
    (before : first.fields < second.fields) : first.elapsed < second.elapsed := by
  simp only [fields, List.cons_lt_cons_iff, List.not_lt_nil, and_false, or_false] at before
  rcases before with year | ⟨sameYear, month | ⟨sameMonth, day | ⟨sameDay, ofDay⟩⟩⟩
  · exact elapsed_lt_of_dayNumber_lt firstValid (dayNumber_lt_of_year_lt firstValid year)
  · exact elapsed_lt_of_dayNumber_lt firstValid
      (dayNumber_lt_of_month_lt firstValid secondValid sameYear month)
  · refine elapsed_lt_of_dayNumber_lt firstValid ?_
    obtain ⟨_, _, _, _, dayStart, _⟩ := firstValid
    rw [dayNumber, dayNumber, sameYear, sameMonth]
    omega
  · have sameDate : first.dayNumber = second.dayNumber := by
      rw [dayNumber, dayNumber, sameYear, sameMonth, sameDay]
    obtain ⟨_, _, _, _, _, _, _, minute, second', microsecond⟩ := firstValid
    rw [elapsed, elapsed, sameDate]
    simp only [timeOfDay, perSecond]
    omega

theorem fields_injective (same : first.fields = second.fields) : first = second := by
  cases first
  cases second
  simpa [fields] using same

theorem elapsed_lt_iff (firstValid : first.Valid) (secondValid : second.Valid) :
    first.elapsed < second.elapsed ↔ first.fields < second.fields := by
  constructor
  · intro less
    rcases lt_trichotomy first.fields second.fields with before | same | behind
    · exact before
    · rw [fields_injective same] at less
      exact absurd less (Nat.lt_irrefl _)
    · have greater := elapsed_lt_of_fields_lt secondValid firstValid behind
      exact absurd greater (Nat.lt_asymm less)
  · exact elapsed_lt_of_fields_lt firstValid secondValid

theorem elapsed_injective (firstValid : first.Valid) (secondValid : second.Valid)
    (same : first.elapsed = second.elapsed) : first = second := by
  have read := ofElapsed?_elapsed firstValid
  rw [same, ofElapsed?_elapsed secondValid] at read
  exact (Option.some.inj read).symm

end CommitmentLog.Civil
