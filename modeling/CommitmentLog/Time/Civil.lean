/-!
# Civil dates and times

A civil time is a date of the proleptic Gregorian calendar in the years 1 to 9999 with a time of day to
the microsecond.  It is measured by the microseconds since the first moment of year 1, and read back from
that measure; a measure outside these years is no civil time.
-/

set_option autoImplicit false

namespace CommitmentLog

structure Civil where
  year : Nat
  month : Nat
  day : Nat
  hour : Nat := 0
  minute : Nat := 0
  second : Nat := 0
  microsecond : Nat := 0
  deriving DecidableEq, Repr

namespace Civil

/-! ## The calendar -/

/-- A leap year: divisible by four, but of the centuries only those divisible by four hundred. -/
def isLeap (year : Nat) : Bool :=
  year % 4 = 0 && (year % 100 != 0 || year % 400 = 0)

def monthLengths (year : Nat) : List Nat :=
  [31, if isLeap year then 29 else 28, 31, 30, 31, 30, 31, 31, 30, 31, 30, 31]

def daysInMonth (year month : Nat) : Nat :=
  if month = 0 then 0 else (monthLengths year).getD (month - 1) 0

def lastYear : Nat := 9999

/-- The fields name a day of the calendar and a time of that day. -/
def Valid (civil : Civil) : Prop :=
  1 ≤ civil.year ∧ civil.year ≤ lastYear ∧ 1 ≤ civil.month ∧ civil.month ≤ 12 ∧
    1 ≤ civil.day ∧ civil.day ≤ daysInMonth civil.year civil.month ∧
    civil.hour < 24 ∧ civil.minute < 60 ∧ civil.second < 60 ∧ civil.microsecond < 1000000

instance (civil : Civil) : Decidable civil.Valid :=
  inferInstanceAs (Decidable (_ ∧ _))

/-- The fields name a day and a time of it in the years that texts may name, which begin one year before
year 1.  That year is a leap year, as every four hundredth year is. -/
def Nameable (civil : Civil) : Prop :=
  (if civil.year = 0 then { civil with year := 400 } else civil).Valid

instance (civil : Civil) : Decidable civil.Nameable :=
  inferInstanceAs (Decidable (Valid _))

/-! ## Measuring -/

/-- The days before the first day of a year, counted from the first day of year 1. -/
def daysBeforeYear (year : Nat) : Nat :=
  let whole := year - 1
  whole * 365 + whole / 4 - whole / 100 + whole / 400

def daysBeforeMonth (year month : Nat) : Nat :=
  ((monthLengths year).take (month - 1)).foldl (· + ·) 0

def dayNumber (civil : Civil) : Nat :=
  daysBeforeYear civil.year + daysBeforeMonth civil.year civil.month + (civil.day - 1)

def perSecond : Nat := 1000000

def perDay : Nat := 86400 * perSecond

def timeOfDay (civil : Civil) : Nat :=
  ((civil.hour * 60 + civil.minute) * 60 + civil.second) * perSecond + civil.microsecond

/-- The microseconds since the first moment of year 1. -/
def elapsed (civil : Civil) : Nat :=
  civil.dayNumber * perDay + civil.timeOfDay

/-! ## Reading a measure back -/

/-- The year in which a day falls.  Four hundred years have 146097 days; the share of them that has
passed is at most one year off. -/
def yearOfDay (day : Nat) : Nat :=
  let guess := day * 400 / 146097 + 1
  if day < daysBeforeYear guess then guess - 1
  else if daysBeforeYear (guess + 1) ≤ day then guess + 1
  else guess

/-- The month and the day of the month, both counted from zero, of a day of the year, given the lengths
of the months. -/
def monthOfDay : List Nat → Nat → Nat × Nat
  | [], day => (0, day)
  | length :: rest, day =>
      if day < length then (0, day)
      else
        let (months, left) := monthOfDay rest (day - length)
        (months + 1, left)

/-- The civil time at this many microseconds after the first moment of year 1, if it falls before the end
of the last year. -/
def ofElapsed? (microseconds : Nat) : Option Civil :=
  let day := microseconds / perDay
  let ofDay := microseconds % perDay
  let year := yearOfDay day
  if lastYear < year then none
  else
    let (months, left) := monthOfDay (monthLengths year) (day - daysBeforeYear year)
    some {
      year, month := months + 1, day := left + 1
      hour := ofDay / (3600 * perSecond)
      minute := ofDay / (60 * perSecond) % 60
      second := ofDay / perSecond % 60
      microsecond := ofDay % perSecond }

/-! ## Writing -/

def padded (width value : Nat) : String :=
  let digits := (toString value).toList
  String.ofList (List.replicate (width - digits.length) '0' ++ digits)

/-- The date and the time joined by `T`; six digits of a second only if they are not all zero. -/
def text (civil : Civil) : String :=
  padded 4 civil.year ++ "-" ++ padded 2 civil.month ++ "-" ++ padded 2 civil.day ++ "T" ++
    padded 2 civil.hour ++ ":" ++ padded 2 civil.minute ++ ":" ++ padded 2 civil.second ++
    (if civil.microsecond = 0 then "" else "." ++ padded 6 civil.microsecond)

end Civil

end CommitmentLog
