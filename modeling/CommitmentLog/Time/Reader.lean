import CommitmentLog.Number.Arithmetic
import CommitmentLog.Time.Timestamp

/-!
# Reading timestamps

Two readers.  `ofWritten?` reads the form in which timestamps are written.  `Reading.ofText?` reads what a
caller may submit: the separator may be a blank or an underscore, seconds may be left out, a fraction of
any length is cut after six digits, the offset may be `Z` or may stand without its colon, a bare date is its
midnight, and a number counts seconds since the start of 1970 in universal time.  Both accept only times
that exist.  What is submitted may also fall in the year before year 1, which is read but is no timestamp.
-/

set_option autoImplicit false

namespace CommitmentLog.Timestamp

/-! ## Digits -/

def digitValue? (character : Char) : Option Nat :=
  if '0' ≤ character ∧ character ≤ '9' then some (character.toNat - 48) else none

def takeDigits? : Nat → Nat → List Char → Option (Nat × List Char)
  | 0, value, rest => some (value, rest)
  | _ + 1, _, [] => none
  | count + 1, value, character :: rest =>
      match digitValue? character with
      | none => none
      | some digit => takeDigits? count (value * 10 + digit) rest

def spanDigits : List Char → List Nat × List Char
  | [] => ([], [])
  | character :: rest =>
      match digitValue? character with
      | none => ([], character :: rest)
      | some digit =>
          let (digits, after) := spanDigits rest
          (digit :: digits, after)

def ofDigits (digits : List Nat) : Nat :=
  digits.foldl (fun value digit => value * 10 + digit) 0

/-- The microseconds that the digits of a fraction name; digits beyond the sixth are dropped. -/
def microsecondsOf (digits : List Nat) : Nat :=
  let kept := digits.take 6
  ofDigits kept * Nat.pow 10 (6 - kept.length)

/-! ## Parts -/

def date? (text : List Char) : Option (Civil × List Char) := do
  let (year, rest) ← takeDigits? 4 0 text
  let '-' :: rest := rest | none
  let (month, rest) ← takeDigits? 2 0 rest
  let '-' :: rest := rest | none
  let (day, rest) ← takeDigits? 2 0 rest
  let civil : Civil := { year, month, day }
  if civil.Nameable then some (civil, rest) else none

/-- The fraction of a second behind its separator, at least one digit. -/
def fraction? (separators : List Char) : List Char → Option (Nat × List Char)
  | [] => some (0, [])
  | character :: rest =>
      if separators.contains character then
        match spanDigits rest with
        | ([], _) => none
        | (digits, after) => some (microsecondsOf digits, after)
      else some (0, character :: rest)

def time? (separators : List Char) (date : Civil) (text : List Char) :
    Option (Civil × List Char) := do
  let (hour, rest) ← takeDigits? 2 0 text
  let ':' :: rest := rest | none
  let (minute, rest) ← takeDigits? 2 0 rest
  let (second, microsecond, rest) ←
    match rest with
    | ':' :: rest => do
        let (second, rest) ← takeDigits? 2 0 rest
        let (microsecond, rest) ← fraction? separators rest
        some (second, microsecond, rest)
    | rest => some (0, 0, rest)
  let civil := { date with hour, minute, second, microsecond }
  if civil.Nameable then some (civil, rest) else none

/-- One sign of an offset: `+`, `-`, or the mathematical minus. -/
def offsetSign? (character : Char) : Option Int :=
  if character = '+' then some 1
  else if character = '-' ∨ character = '\u2212' then some (-1)
  else none

/-- An offset that ends the text: hours and minutes, with or without a colon between them. -/
def shortOffset? : List Char → Option Int
  | [] => none
  | character :: rest => do
      let sign ← offsetSign? character
      let (hours, rest) ← takeDigits? 2 0 rest
      let rest := match rest with
        | ':' :: rest => rest
        | rest => rest
      let (minutes, rest) ← takeDigits? 2 0 rest
      if rest.isEmpty ∧ minutes < 60 ∧ hours < 24 then
        some (sign * ((hours : Int) * 3600 + (minutes : Int) * 60))
      else none

/-- The offset that ends a submitted text: nothing, the letter for universal time, or a short offset. -/
def submittedOffset? (text : List Char) : Option (Option Int) :=
  match text with
  | [] => some none
  | ['Z'] => some (some 0)
  | ['z'] => some (some 0)
  | text => (shortOffset? text).map some

/-- The offset that ends a written text, with a colon after the hours and perhaps seconds. -/
def writtenOffset? : List Char → Option (Option Int)
  | [] => some none
  | character :: rest => do
      let sign ← if character = '+' then some (1 : Int) else if character = '-' then some (-1) else none
      let (hours, rest) ← takeDigits? 2 0 rest
      let ':' :: rest := rest | none
      let (minutes, rest) ← takeDigits? 2 0 rest
      let (seconds, rest) ←
        match rest with
        | ':' :: rest => takeDigits? 2 0 rest
        | rest => some (0, rest)
      if rest.isEmpty ∧ hours < 24 ∧ minutes < 60 ∧ seconds < 60 then
        some (some (sign * ((hours : Int) * 3600 + (minutes : Int) * 60 + (seconds : Int))))
      else none

/-! ## Written texts -/

def ofWritten? (text : List Char) : Option Timestamp := do
  let (date, rest) ← date? text
  let 'T' :: rest := rest | none
  let (civil, rest) ← time? ['.'] date rest
  let offset ← writtenOffset? rest
  if civil.Valid then some { civil, offset } else none

/-! ## Submitted values -/

/-- What a submitted value names: a timestamp, or a time in the year before year 1. -/
inductive Reading where
  | timestamp (value : Timestamp)
  | beforeYearOne
  deriving DecidableEq, Repr

namespace Reading

/-- A civil time with its offset, which may lie in the year before year 1. -/
def ofCivil (civil : Civil) (offset : Option Int) : Reading :=
  if civil.year = 0 then beforeYearOne else timestamp { civil, offset }

/-! ### Seconds since 1970 -/

/-- The seconds from the first moment of year 1 to the start of 1970. -/
def epoch : Int := 62135596800

def leapYear : Int := 366 * 86400

/-- A count above this size is taken for milliseconds. -/
def largestSeconds : Nat := 20000000000

def latestSeconds : Int := 253402300799

/-- What lies this many seconds and microseconds after the start of 1970 in universal time; nothing if
that is before the year before year 1 or after the year 9999.  A large count is taken for milliseconds. -/
def ofSeconds? (count : Int) (microseconds : Nat) : Option Reading :=
  let fine := count.natAbs > largestSeconds
  let seconds := if fine then count / 1000 else count
  let rest := (if fine then (count % 1000).toNat * 1000 else 0) + microseconds
  let seconds := seconds + epoch + (rest / Civil.perSecond : Nat)
  if seconds < -leapYear ∨ latestSeconds + epoch < seconds then none
  else if seconds < 0 then some beforeYearOne
  else
    (Civil.ofElapsed? (seconds.toNat * Civil.perSecond + rest % Civil.perSecond)).map
      fun civil => timestamp { civil, offset := some 0 }

/-- What lies this many seconds after the start of 1970, given as a binary fraction.  A large count is
taken for milliseconds and brought to seconds first; the part behind the point is rounded to microseconds. -/
def ofFraction? (count : Binary) : Option Reading :=
  let seconds := if (Binary.ofInt largestSeconds).isLess count.size then count.dividedBy 1000 else count
  let whole := seconds.floor
  let behind := (seconds.minus (Binary.ofInt whole)).times (Binary.ofInt Civil.perSecond)
  ofSeconds? whole behind.round.toNat

/-- Seconds since 1970 in digits.  A number with a point may also have an exponent. -/
def ofDigits? (text : List Char) : Option Reading :=
  let (negative, body) := Number.sign text
  match Number.spanDigits 0 0 body with
  | ((value, count), []) =>
      if count = 0 then none else ofSeconds? (if negative then -(value : Int) else value) 0
  | (_, '.' :: _) =>
      ((Number.unsigned? negative body).bind Binary.ofDecimal?).bind ofFraction?
  | _ => none

/-! ### Texts -/

def ofTime? (text : List Char) : Option Reading := do
  let (date, rest) ← date? text
  let separator :: rest := rest | none
  if ['T', 't', ' ', '_'].contains separator then
    let (civil, rest) ← time? ['.', ','] date rest
    let offset ← submittedOffset? rest
    some (ofCivil civil offset)
  else none

/-- A bare date: its midnight, without an offset. -/
def ofDate? (text : List Char) : Option Reading := do
  let (civil, rest) ← date? text
  if rest.isEmpty then some (ofCivil civil none) else none

def ofText? (text : List Char) : Option Reading :=
  (ofTime? text).or ((ofDate? text).or (ofDigits? text))

end Reading

end CommitmentLog.Timestamp
