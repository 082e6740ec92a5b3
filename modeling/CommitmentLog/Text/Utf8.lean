import CommitmentLog.Hex

/-!
# UTF-8

Text as bytes and bytes as text.  Decoding never fails: a byte sequence that is cut short or that no
character has is replaced, and a replacement stands for the longest start of a well-formed sequence.
`decode?` is the strict reader, which answers only when nothing has to be replaced.
-/

set_option autoImplicit false

namespace CommitmentLog.Text.Utf8

def encode (text : List Char) : Bytes :=
  text.flatMap String.utf8EncodeChar

def replacement : Char := '\ufffd'

/-- What a first byte announces: how many bytes follow, its own bits of the code point, and the range of
the second byte. -/
structure Lead where
  following : Nat
  bits : Nat
  low : Nat
  high : Nat

/-- The announcement of a first byte, if it may start a sequence. -/
def lead? (byte : UInt8) : Option Lead :=
  let code := byte.toNat
  if code < 0x80 then some ⟨0, code, 0, 0⟩
  else if 0xc2 ≤ code ∧ code ≤ 0xdf then some ⟨1, code - 0xc0, 0x80, 0xbf⟩
  else if code = 0xe0 then some ⟨2, 0, 0xa0, 0xbf⟩
  else if code = 0xed then some ⟨2, 13, 0x80, 0x9f⟩
  else if 0xe1 ≤ code ∧ code ≤ 0xef then some ⟨2, code - 0xe0, 0x80, 0xbf⟩
  else if code = 0xf0 then some ⟨3, 0, 0x90, 0xbf⟩
  else if code = 0xf4 then some ⟨3, 4, 0x80, 0x8f⟩
  else if 0xf1 ≤ code ∧ code ≤ 0xf3 then some ⟨3, code - 0xf0, 0x80, 0xbf⟩
  else none

/-- What is still wanted of the sequence being read: more bytes, the code point so far, and the range of
the next byte. -/
abbrev Pending := Option Lead

/-- Reads bytes one by one.  A byte that does not continue the sequence being read ends it with a
replacement and starts anew. -/
def decodeFrom : Pending → Bytes → List (Option Char)
  | none, [] => []
  | some _, [] => [none]
  | none, byte :: rest =>
      match lead? byte with
      | none => none :: decodeFrom none rest
      | some ⟨0, bits, _, _⟩ => some (Char.ofNat bits) :: decodeFrom none rest
      | some lead => decodeFrom (some lead) rest
  | some ⟨following, bits, low, high⟩, byte :: rest =>
      if low ≤ byte.toNat ∧ byte.toNat ≤ high then
        let bits := bits * 64 + byte.toNat % 64
        if following ≤ 1 then some (Char.ofNat bits) :: decodeFrom none rest
        else decodeFrom (some ⟨following - 1, bits, 0x80, 0xbf⟩) rest
      else
        none ::
          match lead? byte with
          | none => none :: decodeFrom none rest
          | some ⟨0, bits, _, _⟩ => some (Char.ofNat bits) :: decodeFrom none rest
          | some lead => decodeFrom (some lead) rest

/-- The text that bytes spell, with replacements where they spell none. -/
def decode (bytes : Bytes) : List Char :=
  (decodeFrom none bytes).map fun character => character.getD replacement

/-- The text that bytes spell, if they are well formed throughout. -/
def decode? (bytes : Bytes) : Option (List Char) :=
  (decodeFrom none bytes).mapM id

end CommitmentLog.Text.Utf8
