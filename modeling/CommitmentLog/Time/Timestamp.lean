import CommitmentLog.Time.Civil

/-!
# Timestamps and instants

A timestamp is a civil time, alone or with the offset of its clock from universal time.  Without an
offset it is taken to be universal time already.  Timestamps are stored as civil times in universal time;
two timestamps that name one instant are stored as the same civil time, and a timestamp whose instant lies
outside the years 1 to 9999 of universal time cannot be stored.

A timestamp is written in two ways, which differ in the offset only: in full, or to the minute.
-/

set_option autoImplicit false

namespace CommitmentLog

/-- A civil time with the offset of its clock in seconds, east of universal time positive. -/
structure Timestamp where
  civil : Civil
  offset : Option Int := none
  deriving DecidableEq, Repr

namespace Timestamp

def ofCivil (civil : Civil) : Timestamp :=
  { civil }

/-- Microseconds of universal time since the first moment of year 1; negative before it. -/
def instant (timestamp : Timestamp) : Int :=
  (timestamp.civil.elapsed : Int) - timestamp.offset.getD 0 * (Civil.perSecond : Int)

/-- The civil time of the instant in universal time.  A timestamp without an offset is kept as it is. -/
def toUniversal? (timestamp : Timestamp) : Option Civil :=
  match timestamp.offset with
  | none => some timestamp.civil
  | some _ =>
      if timestamp.instant < 0 then none else Civil.ofElapsed? timestamp.instant.toNat

/-- Whether one timestamp is earlier than another.  There is no answer if only one of them has an
offset. -/
def isBefore? (first second : Timestamp) : Option Bool :=
  if first.offset.isSome = second.offset.isSome then some (first.instant < second.instant) else none

/-! ## Writing -/

/-- The offset as sign, hours and minutes, with seconds only if they are not zero. -/
def offsetText (offset : Int) : String :=
  let size := offset.natAbs
  (if offset < 0 then "-" else "+") ++ Civil.padded 2 (size / 3600) ++ ":" ++
    Civil.padded 2 (size / 60 % 60) ++
    (if size % 60 = 0 then "" else ":" ++ Civil.padded 2 (size % 60))

def text (timestamp : Timestamp) : String :=
  timestamp.civil.text ++
    match timestamp.offset with
    | none => ""
    | some offset => offsetText offset

/-- The offset to the minute, with a letter for universal time.  The sign is that of the whole hours. -/
def offsetMinutesText (offset : Int) : String :=
  if offset = 0 then "Z"
  else
    let minutes := offset.tdiv 60
    let hours := minutes.tdiv 60
    (if hours < 0 then "-" else "+") ++ Civil.padded 2 hours.natAbs ++ ":" ++
      Civil.padded 2 (minutes.tmod 60).natAbs

def minuteText (timestamp : Timestamp) : String :=
  timestamp.civil.text ++
    match timestamp.offset with
    | none => ""
    | some offset => offsetMinutesText offset

/-- The offset as it is spelled inside `description`: days and seconds, the seconds never negative. -/
def offsetDescription (offset : Int) : String :=
  if offset = 0 then "datetime.timezone.utc"
  else if offset < 0 then
    "datetime.timezone(datetime.timedelta(days=-1, seconds=" ++ toString (offset + 86400) ++ "))"
  else "datetime.timezone(datetime.timedelta(seconds=" ++ toString offset ++ "))"

/-- The field by field spelling that one refusal quotes.  Seconds are left out if they and the
microseconds are zero, microseconds if they are zero. -/
def description (timestamp : Timestamp) : String :=
  let civil := timestamp.civil
  let date := [civil.year, civil.month, civil.day, civil.hour, civil.minute]
  let fine :=
    if civil.microsecond ≠ 0 then [civil.second, civil.microsecond]
    else if civil.second ≠ 0 then [civil.second]
    else []
  "datetime.datetime(" ++ ", ".intercalate ((date ++ fine).map toString) ++
    (match timestamp.offset with
    | none => ""
    | some offset => ", tzinfo=" ++ offsetDescription offset) ++ ")"

end Timestamp

end CommitmentLog
