import CommitmentLog.Text.Blank

/-!
# Decimal numbers as text

A decimal number is kept exactly: sign, digits as one natural number, and a power of ten.  Two readers
serve the settings and the query values.  Whole numbers may carry a sign, leading zeros, single underscores
between digits and a fraction of zeros, and may not have more than 4300 digits; other numbers may have a
fraction and an exponent, or be one of the words for infinity and for no number.
-/

set_option autoImplicit false

namespace CommitmentLog

/-- A decimal number: its sign, its digits without the point, and the power of ten they count. -/
structure Decimal where
  negative : Bool := false
  digits : Nat
  exponent : Int := 0
  deriving DecidableEq, Repr

def Decimal.ofInt (value : Int) : Decimal :=
  { negative := value < 0, digits := value.natAbs }

namespace Number

def digitValue? (character : Char) : Option Nat :=
  if '0' ≤ character ∧ character ≤ '9' then some (character.toNat - 48) else none

/-- The digits at the front, as their number and their count, and what follows them. -/
def spanDigits (value count : Nat) : List Char → (Nat × Nat) × List Char
  | [] => ((value, count), [])
  | character :: rest =>
      match digitValue? character with
      | none => ((value, count), character :: rest)
      | some digit => spanDigits (value * 10 + digit) (count + 1) rest

def sign : List Char → Bool × List Char
  | '-' :: rest => (true, rest)
  | '+' :: rest => (false, rest)
  | text => (false, text)

/-! ## Whole numbers -/

/-- The text without its underscores, if each stands alone between two other characters. -/
def dropUnderscores? : List Char → Option (List Char)
  | [] => some []
  | [character] => if character = '_' then none else some [character]
  | first :: second :: rest =>
      if first = '_' then none
      else if second = '_' then
        match rest with
        | [] => none
        | rest => (dropUnderscores? rest).map (first :: ·)
      else (dropUnderscores? (second :: rest)).map (first :: ·)

def startsNumber (character : Char) : Bool :=
  character = '-' || ('1' ≤ character && character ≤ '9')

/-- What follows the zeros and underscores in front of a number, of which the last one read is given.  It
is kept before a point, and where nothing follows. -/
def behindZeros? (last : Char) : List Char → Option (List Char)
  | [] => some [last]
  | character :: rest =>
      if character = '0' ∨ character = '_' then behindZeros? character rest
      else if startsNumber character then some (character :: rest)
      else if character = '.' then some (last :: character :: rest)
      else none

/-- A number without the zeros in front of it.  A minus may stand before a number and behind such zeros. -/
def dropZeros? : List Char → Option (List Char)
  | [] => none
  | character :: rest =>
      if character = '0' then behindZeros? character rest
      else if startsNumber character then some (character :: rest)
      else none

/-- A number without the point behind it, if zeros follow the point, at least one and nothing else. -/
def dropZeroFraction (text : List Char) : List Char :=
  match text.dropWhile (· ≠ '.') with
  | _ :: zero :: zeros =>
      if (zero :: zeros).all (· = '0') then text.takeWhile (· ≠ '.') else text
  | _ => text

/-- The bare form of a text that may spell a whole number: no white space around it, no plus, no zeros in
front, no fraction of zeros, no underscores between digits. -/
def bareForm? (text : List Char) : Option (List Char) :=
  let unsigned? := match Text.trim Text.isSpace text with
    | '+' :: '-' :: _ => none
    | '+' :: rest => some rest
    | trimmed => some trimmed
  unsigned?.bind fun unsigned =>
    (dropZeros? unsigned).bind fun stripped => dropUnderscores? (dropZeroFraction stripped)

def maxDigits : Nat := 4300

def minusSign : List Char → Bool × List Char
  | '-' :: rest => (true, rest)
  | text => (false, text)

def ofBareForm? (text : List Char) : Option Int :=
  let (negative, body) := minusSign text
  match spanDigits 0 0 body with
  | ((value, count), []) =>
      if count = 0 ∨ maxDigits < count ∨ (body.head? = some '0' ∧ count ≠ 1) then none
      else some (if negative then -(value : Int) else value)
  | _ => none

/-- Whether a text starts with more digits than a whole number may have. -/
def isOverlong (text : List Char) : Bool :=
  let body := (minusSign text).2
  body.head? != some '0' && maxDigits < (spanDigits 0 0 body).1.2

inductive NoWholeNumber where
  | malformed
  | overlong
  deriving DecidableEq, Repr

def wholeNumber (text : List Char) : Except NoWholeNumber Int :=
  if isOverlong text then .error .overlong
  else
    match (bareForm? text).bind ofBareForm? with
    | some value => .ok value
    | none => .error .malformed

/-! ## Numbers with a fraction -/

/-- What a text for a number may spell. -/
inductive Spelled where
  | finite (value : Decimal)
  | infinite (negative : Bool)
  | undefined
  deriving DecidableEq, Repr

def exponent? : List Char → Option Int
  | [] => some 0
  | character :: rest =>
      if character = 'e' ∨ character = 'E' then
        let (negative, body) := sign rest
        match spanDigits 0 0 body with
        | ((_, 0), _) => none
        | ((value, _), []) => some (if negative then -(value : Int) else value)
        | _ => none
      else none

/-- Digits with at most one point among them, then perhaps an exponent. -/
def unsigned? (negative : Bool) (body : List Char) : Option Decimal :=
  let ((whole, wholeCount), rest) := spanDigits 0 0 body
  let ((digits, count), rest) := match rest with
    | '.' :: rest => spanDigits whole wholeCount rest
    | rest => ((whole, wholeCount), rest)
  if count = 0 then none
  else
    (exponent? rest).map fun exponent =>
      { negative, digits, exponent := exponent - ((count : Int) - (wholeCount : Int)) }

def plain? (text : List Char) : Option Spelled :=
  let (negative, body) := sign text
  let word := body.map Char.toLower
  if word = ['i', 'n', 'f'] ∨ word = ['i', 'n', 'f', 'i', 'n', 'i', 't', 'y'] then
    some (.infinite negative)
  else if word = ['n', 'a', 'n'] then some .undefined
  else (unsigned? negative body).map .finite

/-- A number with white space around it, or else with underscores between its characters. -/
def spelled? (text : List Char) : Option Spelled :=
  match plain? (Text.trim Text.isSpace text) with
  | some number => some number
  | none => (dropUnderscores? text).bind plain?

end Number

end CommitmentLog
