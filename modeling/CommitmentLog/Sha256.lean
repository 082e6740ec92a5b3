import CommitmentLog.Hex

/-!
# SHA-256

The hash that joins two tree nodes outside of proofs, written from its definition: the message is
padded to whole blocks of sixty-four bytes, each block is expanded to a schedule of sixty-four words,
and every word of the schedule turns the eight working words once.  Nothing in the theory of the tree
depends on it; the tree takes its hash as a parameter.
-/

set_option autoImplicit false

namespace CommitmentLog.Sha256

structure Registers where
  a : UInt32
  b : UInt32
  c : UInt32
  d : UInt32
  e : UInt32
  f : UInt32
  g : UInt32
  h : UInt32

def start : Registers :=
  { a := 0x6a09e667, b := 0xbb67ae85, c := 0x3c6ef372, d := 0xa54ff53a,
    e := 0x510e527f, f := 0x9b05688c, g := 0x1f83d9ab, h := 0x5be0cd19 }

def roundConstants : Array UInt32 := #[
  0x428a2f98, 0x71374491, 0xb5c0fbcf, 0xe9b5dba5, 0x3956c25b, 0x59f111f1, 0x923f82a4, 0xab1c5ed5,
  0xd807aa98, 0x12835b01, 0x243185be, 0x550c7dc3, 0x72be5d74, 0x80deb1fe, 0x9bdc06a7, 0xc19bf174,
  0xe49b69c1, 0xefbe4786, 0x0fc19dc6, 0x240ca1cc, 0x2de92c6f, 0x4a7484aa, 0x5cb0a9dc, 0x76f988da,
  0x983e5152, 0xa831c66d, 0xb00327c8, 0xbf597fc7, 0xc6e00bf3, 0xd5a79147, 0x06ca6351, 0x14292967,
  0x27b70a85, 0x2e1b2138, 0x4d2c6dfc, 0x53380d13, 0x650a7354, 0x766a0abb, 0x81c2c92e, 0x92722c85,
  0xa2bfe8a1, 0xa81a664b, 0xc24b8b70, 0xc76c51a3, 0xd192e819, 0xd6990624, 0xf40e3585, 0x106aa070,
  0x19a4c116, 0x1e376c08, 0x2748774c, 0x34b0bcb5, 0x391c0cb3, 0x4ed8aa4a, 0x5b9cca4f, 0x682e6ff3,
  0x748f82ee, 0x78a5636f, 0x84c87814, 0x8cc70208, 0x90befffa, 0xa4506ceb, 0xbef9a3f7, 0xc67178f2]

def rotateRight (word amount : UInt32) : UInt32 :=
  (word >>> amount) ||| (word <<< (32 - amount))

def wordOfBytes (first second third fourth : UInt8) : UInt32 :=
  (first.toUInt32 <<< 24) ||| (second.toUInt32 <<< 16) ||| (third.toUInt32 <<< 8) |||
    fourth.toUInt32

/-- The words of a byte string; up to three bytes at the end that fill no word are left out. -/
def wordsOfBytes : Bytes → List UInt32
  | first :: second :: third :: fourth :: rest =>
      wordOfBytes first second third fourth :: wordsOfBytes rest
  | _ => []

def bytesOfWord (word : UInt32) : Bytes :=
  [(word >>> 24).toUInt8, (word >>> 16).toUInt8, (word >>> 8).toUInt8, word.toUInt8]

/-- The message, a single one bit, zeros, and the length in bits, up to a multiple of a block. -/
def pad (message : Bytes) : Bytes :=
  let bitLength := message.length * 8
  let zeros := (119 - message.length % 64) % 64
  message ++ 0x80 :: List.replicate zeros 0 ++
    ((List.range 8).map fun index => UInt8.ofNat (bitLength / Nat.pow 256 (7 - index)))

/-- Extends the sixteen words of a block by one word of the schedule. -/
def extendSchedule (words : Array UInt32) (index : Nat) : Array UInt32 :=
  let near := words.getD (index - 2) 0
  let far := words.getD (index - 15) 0
  let nearMix := rotateRight near 17 ^^^ rotateRight near 19 ^^^ (near >>> 10)
  let farMix := rotateRight far 7 ^^^ rotateRight far 18 ^^^ (far >>> 3)
  words.push (nearMix + words.getD (index - 7) 0 + farMix + words.getD (index - 16) 0)

def schedule (block : List UInt32) : Array UInt32 :=
  (List.range' 16 48).foldl extendSchedule block.toArray

def turn (r : Registers) (word constant : UInt32) : Registers :=
  let upper := rotateRight r.e 6 ^^^ rotateRight r.e 11 ^^^ rotateRight r.e 25
  let choice := (r.e &&& r.f) ^^^ ((~~~r.e) &&& r.g)
  let first := r.h + upper + choice + constant + word
  let lower := rotateRight r.a 2 ^^^ rotateRight r.a 13 ^^^ rotateRight r.a 22
  let majority := (r.a &&& r.b) ^^^ (r.a &&& r.c) ^^^ (r.b &&& r.c)
  { a := first + lower + majority, b := r.a, c := r.b, d := r.c,
    e := r.d + first, f := r.e, g := r.f, h := r.g }

def absorb (r : Registers) (block : List UInt32) : Registers :=
  let words := schedule block
  let t := (List.range 64).foldl
    (fun state index => turn state (words.getD index 0) (roundConstants.getD index 0)) r
  { a := r.a + t.a, b := r.b + t.b, c := r.c + t.c, d := r.d + t.d,
    e := r.e + t.e, f := r.f + t.f, g := r.g + t.g, h := r.h + t.h }

def absorbBlocks : Nat → List UInt32 → Registers → Registers
  | 0, _, r => r
  | count + 1, words, r => absorbBlocks count (words.drop 16) (absorb r (words.take 16))

def digest (message : Bytes) : Bytes :=
  let padded := pad message
  let r := absorbBlocks (padded.length / 64) (wordsOfBytes padded) start
  [r.a, r.b, r.c, r.d, r.e, r.f, r.g, r.h].flatMap bytesOfWord

def parent (left right : Bytes) : Bytes :=
  digest (left ++ right)

end CommitmentLog.Sha256
