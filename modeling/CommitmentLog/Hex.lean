/-!
# Hexadecimal text of byte strings

Roots and commitments are byte strings, and outside the store they are written as hexadecimal text.
Writing has one form: two lower-case digits a byte, with `0x` in front wherever a reader meets the
value.  Reading is looser: the two digits of a byte stand next to each other, either case counts, and
blanks may stand before each byte and at the end.  A text that is not of this form is refused with the
position of the first character that does not fit.
-/

set_option autoImplicit false

namespace CommitmentLog

abbrev Bytes := List UInt8

namespace Hex

/-! ## Writing -/

def digit (value : Nat) : Char :=
  Char.ofNat (if value < 10 then 48 + value else 87 + value)

def ofByte (byte : UInt8) : List Char :=
  [digit (byte.toNat / 16), digit (byte.toNat % 16)]

def ofBytes (bytes : Bytes) : List Char :=
  bytes.flatMap ofByte

def bare (bytes : Bytes) : String :=
  String.ofList (ofBytes bytes)

/-- The written form that readers meet: the digits behind `0x`. -/
def prefixed (bytes : Bytes) : String :=
  String.ofList ('0' :: 'x' :: ofBytes bytes)

/-! ## Reading -/

def digitValue? (character : Char) : Option Nat :=
  if '0' ≤ character ∧ character ≤ '9' then some (character.toNat - 48)
  else if 'a' ≤ character ∧ character ≤ 'f' then some (character.toNat - 87)
  else if 'A' ≤ character ∧ character ≤ 'F' then some (character.toNat - 55)
  else none

/-- The six blanks that may stand before a byte and at the end. -/
def isBlank (character : Char) : Bool :=
  character = ' ' || character = '\t' || character = '\n' || character = '\x0b' ||
    character = '\x0c' || character = '\r'

/-- Why a text spells no byte string of the wanted length. -/
inductive Malformed where
  /-- The character at this position is no hexadecimal digit where one is needed, or the text ends
  there in the middle of a byte. -/
  | misplaced (position : Nat)
  /-- The digits spell this many bytes and not thirty-two. -/
  | length (count : Nat)
  deriving DecidableEq, Repr

/-- Reads bytes from left to right; `position` is the number of characters already read. -/
def scan : Nat → List Char → Except Malformed Bytes
  | _, [] => .ok []
  | position, first :: rest =>
      if isBlank first then scan (position + 1) rest
      else
        match digitValue? first, rest with
        | none, _ => .error (.misplaced position)
        | some _, [] => .error (.misplaced (position + 1))
        | some high, second :: rest =>
            match digitValue? second with
            | none => .error (.misplaced (position + 1))
            | some low =>
                match scan (position + 2) rest with
                | .error reason => .error reason
                | .ok bytes => .ok (UInt8.ofNat (16 * high + low) :: bytes)

def firstBeyondAscii? : Nat → List Char → Option Nat
  | _, [] => none
  | position, character :: rest =>
      if character.toNat < 128 then firstBeyondAscii? (position + 1) rest else some position

/-- The bytes that a text spells.  A character beyond ASCII is reported first, wherever it stands. -/
def decode (text : List Char) : Except Malformed Bytes :=
  match firstBeyondAscii? 0 text with
  | some position => .error (.misplaced position)
  | none => scan 0 text

/-- The text behind one leading `0x` or `0X`, or the whole text if there is none. -/
def dropMarker : List Char → List Char
  | '0' :: 'x' :: rest => rest
  | '0' :: 'X' :: rest => rest
  | text => text

/-- The text behind one leading `0x`; a capital `0X` stays. -/
def dropLowerMarker : List Char → List Char
  | '0' :: 'x' :: rest => rest
  | text => text

/-- The number of bytes in a root or in a commitment that is handed in as text. -/
def digestLength : Nat := 32

/-- Reads a root or a commitment: an optional marker, then exactly thirty-two bytes. -/
def readDigest (text : List Char) : Except Malformed Bytes :=
  match decode (dropMarker text) with
  | .error reason => .error reason
  | .ok bytes =>
      if bytes.length = digestLength then .ok bytes else .error (.length bytes.length)

def Malformed.message : Malformed → String
  | .misplaced position =>
      "non-hexadecimal number found in fromhex() arg at position " ++ toString position
  | .length count => "expected " ++ toString digestLength ++ " bytes, got " ++ toString count

end Hex

end CommitmentLog
