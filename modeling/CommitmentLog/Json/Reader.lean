import CommitmentLog.Hex
import CommitmentLog.Json.Basic
import CommitmentLog.Text.Surrogate

/-!
# Reading structured values

A reader for texts of structured values.  It accepts any value at the top, the words for infinity and for
no number, and blanks between all parts; it refuses control characters inside strings.  A malformed text is
refused with the position of the character at which it cannot be continued, which is what a caller is told.
A string that is never closed is reported at its opening quote.  A string with an escape for one half of a
surrogate pair that stands alone is read, but is no text.

A text can also ask for too much: an integer of more digits than are read, or values nested too deeply.
The first fault from the front decides.
-/

set_option autoImplicit false

namespace CommitmentLog.Json

inductive Unreadable where
  /-- The text cannot be continued at this position. -/
  | malformed (position : Nat)
  | overlong
  | tooDeep
  deriving DecidableEq, Repr

/-- What has been read, the position behind it, and the text that is left. -/
abbrev Read (α : Type) := Except Unreadable (α × Nat × List Char)

def isBlank (character : Char) : Bool :=
  character = ' ' || character = '\t' || character = '\n' || character = '\r'

def skipBlanks : Nat → List Char → Nat × List Char
  | position, [] => (position, [])
  | position, character :: rest =>
      if isBlank character then skipBlanks (position + 1) rest else (position, character :: rest)

/-! ## Strings -/

def shortEscape? (character : Char) : Option Char :=
  if character = '"' ∨ character = '\\' ∨ character = '/' then some character
  else if character = 'b' then some '\x08'
  else if character = 'f' then some '\x0c'
  else if character = 'n' then some '\n'
  else if character = 'r' then some '\r'
  else if character = 't' then some '\t'
  else none

def unit? (first second third fourth : Char) : Option Nat := do
  let a ← Hex.digitValue? first
  let b ← Hex.digitValue? second
  let c ← Hex.digitValue? third
  let d ← Hex.digitValue? fourth
  some (((a * 16 + b) * 16 + c) * 16 + d)

/-- Puts a character in front of what has been read.  Without a character it is no text. -/
def consRead (character? : Option Char) : Read (Option (List Char)) → Read (Option (List Char))
  | .error reason => .error reason
  | .ok (characters?, place) =>
      .ok (character?.bind fun character => characters?.map (character :: ·), place)

/-- The rest of a string whose opening quote stands at `start`; none if the string is no text. -/
def readString (start position : Nat) (text : List Char) : Read (Option (List Char)) :=
  match text with
  | [] => .error (.malformed start)
  | '"' :: rest => .ok (some [], position + 1, rest)
  | ['\\'] => .error (.malformed start)
  | '\\' :: 'u' :: a :: b :: c :: d :: next :: rest =>
      match unit? a b c d with
      | none => .error (.malformed (position + 1))
      | some high =>
          match next, rest with
          | '\\', 'u' :: e :: f :: g :: h :: after :: rest =>
              if Text.Surrogate.isHigh high then
                match unit? e f g h with
                | none => .error (.malformed (position + 7))
                | some low =>
                    if Text.Surrogate.isLow low then
                      consRead (some (Text.Surrogate.paired high low)) (readString start (position + 12) (after :: rest))
                    else
                      consRead (Text.Surrogate.alone? high)
                        (readString start (position + 6)
                          ('\\' :: 'u' :: e :: f :: g :: h :: after :: rest))
              else
                consRead (Text.Surrogate.alone? high)
                  (readString start (position + 6) ('\\' :: 'u' :: e :: f :: g :: h :: after :: rest))
          | next, rest => consRead (Text.Surrogate.alone? high) (readString start (position + 6) (next :: rest))
  | '\\' :: 'u' :: _ => .error (.malformed (position + 1))
  | '\\' :: character :: rest =>
      match shortEscape? character with
      | none => .error (.malformed position)
      | some meant => consRead (some meant) (readString start (position + 2) rest)
  | character :: rest =>
      if character.toNat < 0x20 then .error (.malformed position)
      else consRead (some character) (readString start (position + 1) rest)
termination_by text.length
decreasing_by all_goals (simp_all only [List.length_cons]; omega)

/-! ## Numbers -/

/-- The fraction behind the whole digits, if a digit follows the point. -/
def readFraction (whole count position : Nat) : List Char → Option ((Nat × Nat) × Nat × List Char)
  | '.' :: digit :: rest =>
      if (Number.digitValue? digit).isSome then
        let ((value, all), after) := Number.spanDigits whole count (digit :: rest)
        some ((value, all), position + 1 + (all - count), after)
      else none
  | _ => none

/-- The exponent behind a number, if it has a digit. -/
def readExponent (position : Nat) : List Char → Option (Int × Nat × List Char)
  | letter :: rest =>
      if letter = 'e' ∨ letter = 'E' then
        let (negative, body) := Number.sign rest
        match Number.spanDigits 0 0 body with
        | ((_, 0), _) => none
        | ((value, count), after) =>
            some (if negative then -(value : Int) else value,
              position + 1 + (rest.length - body.length) + count, after)
      else none
  | [] => none

/-- A number from the front: the place where it starts is reported if there is none. -/
def readNumber (start : Nat) (text : List Char) : Read Json :=
  let (negative, position, body) := match text with
    | '-' :: rest => (true, start + 1, rest)
    | text => (false, start, text)
  let whole : Option ((Nat × Nat) × List Char) := match body with
    | '0' :: rest => some ((0, 1), rest)
    | character :: rest =>
        if (Number.digitValue? character).isSome then
          some (Number.spanDigits 0 0 (character :: rest))
        else none
    | [] => none
  match whole with
  | none => .error (.malformed start)
  | some ((value, count), rest) =>
      let position := position + count
      let fraction := readFraction value count position rest
      let ((digits, all), position, rest) := fraction.getD ((value, count), position, rest)
      let exponent := readExponent position rest
      let (power, position, rest) := exponent.getD (0, position, rest)
      if fraction.isNone && exponent.isNone then
        if Number.maxDigits < count then .error .overlong
        else .ok (.integer (if negative then -(value : Int) else value), position, rest)
      else
        .ok (.number (.finite { negative, digits, exponent := power - ((all : Int) - (count : Int)) }),
          position, rest)

/-! ## Values -/

def words : List (List Char × Json) :=
  [(['n', 'u', 'l', 'l'], .null), (['t', 'r', 'u', 'e'], .bool true),
    (['f', 'a', 'l', 's', 'e'], .bool false), (['N', 'a', 'N'], .number .undefined),
    (['I', 'n', 'f', 'i', 'n', 'i', 't', 'y'], .number (.infinite false)),
    (['-', 'I', 'n', 'f', 'i', 'n', 'i', 't', 'y'], .number (.infinite true))]

def readAtom (position : Nat) (text : List Char) : Read Json :=
  match words.find? fun word => word.1.isPrefixOf text with
  | some (word, value) => .ok (value, position + word.length, text.drop word.length)
  | none => readNumber position text

mutual

/-- A value in which at most `depth` values may contain each other, with a bound on how long it may be. -/
def readValue (depth : Nat) : Nat → Nat → List Char → Read Json
  | 0, position, _ => .error (.malformed position)
  | _ + 1, position, [] => .error (.malformed position)
  | fuel + 1, position, character :: rest =>
      if character = '"' then
        match readString position (position + 1) rest with
        | .error reason => .error reason
        | .ok (characters?, place) => .ok (Json.ofText? characters?, place)
      else if character = '{' ∨ character = '[' then
        match depth with
        | 0 => .error .tooDeep
        | depth + 1 =>
            let (position, rest) := skipBlanks (position + 1) rest
            if character = '{' then
              match rest with
              | '}' :: rest => .ok (.object [], position + 1, rest)
              | rest =>
                  match readFields depth fuel position rest with
                  | .error reason => .error reason
                  | .ok (fields, place) => .ok (.object fields, place)
            else
              match rest with
              | ']' :: rest => .ok (.array [], position + 1, rest)
              | rest =>
                  match readItems depth fuel position rest with
                  | .error reason => .error reason
                  | .ok (items, place) => .ok (.array items, place)
      else readAtom position (character :: rest)

def readItems (depth : Nat) : Nat → Nat → List Char → Read (List Json)
  | 0, position, _ => .error (.malformed position)
  | fuel + 1, position, text =>
      match readValue depth fuel position text with
      | .error reason => .error reason
      | .ok (item, position, rest) =>
          let (position, rest) := skipBlanks position rest
          match rest with
          | ']' :: rest => .ok ([item], position + 1, rest)
          | ',' :: rest =>
              let (position, rest) := skipBlanks (position + 1) rest
              match readItems depth fuel position rest with
              | .error reason => .error reason
              | .ok (items, place) => .ok (item :: items, place)
          | _ => .error (.malformed position)

def readFields (depth : Nat) : Nat → Nat → List Char → Read (List (Option String × Json))
  | 0, position, _ => .error (.malformed position)
  | fuel + 1, position, '"' :: rest =>
      match readString position (position + 1) rest with
      | .error reason => .error reason
      | .ok (name?, position, rest) =>
          let (position, rest) := skipBlanks position rest
          match rest with
          | ':' :: rest =>
              let (position, rest) := skipBlanks (position + 1) rest
              match readValue depth fuel position rest with
              | .error reason => .error reason
              | .ok (value, position, rest) =>
                  let entry := (name?.map String.ofList, value)
                  let (position, rest) := skipBlanks position rest
                  match rest with
                  | '}' :: rest => .ok ([entry], position + 1, rest)
                  | ',' :: rest =>
                      let (position, rest) := skipBlanks (position + 1) rest
                      match readFields depth fuel position rest with
                      | .error reason => .error reason
                      | .ok (fields, place) => .ok (entry :: fields, place)
                  | _ => .error (.malformed position)
          | _ => .error (.malformed position)
  | _ + 1, position, _ => .error (.malformed position)

end

/-- The value that a whole text spells, with at most `depth` values that contain each other, or why it
spells none.  Every step reads a character, so the bound on the length is never reached. -/
def read (depth : Nat) (text : List Char) : Except Unreadable Json :=
  let (position, rest) := skipBlanks 0 text
  match readValue depth (2 * text.length + 2) position rest with
  | .error reason => .error reason
  | .ok (value, position, rest) =>
      match skipBlanks position rest with
      | (_, []) => .ok value
      | (position, _) => .error (.malformed position)

end CommitmentLog.Json
