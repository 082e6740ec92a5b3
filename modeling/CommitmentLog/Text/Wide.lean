import CommitmentLog.Text.Surrogate
import CommitmentLog.Text.Utf8

/-!
# Texts of two or four bytes a unit

A text may come in units of one, two or four bytes, the wider ones in either order.  Which of these it is
shows in its first bytes: the first two characters of the texts that are read here lie below 128, so the
zero bytes among them tell the width and the order.  Bytes that do not fill the last unit, or that spell no
code point, make the text unreadable.
-/

set_option autoImplicit false

namespace CommitmentLog.Text

inductive ByteOrder where
  | bigFirst
  | littleFirst
  deriving DecidableEq, Repr

inductive Layout where
  | utf8
  | utf16 (order : ByteOrder)
  | utf32 (order : ByteOrder)
  deriving DecidableEq, Repr

namespace ByteOrder

def number (bytes : Bytes) : ByteOrder → Nat
  | bigFirst => bytes.foldl (fun value byte => value * 256 + byte.toNat) 0
  | littleFirst => bytes.foldr (fun byte value => value * 256 + byte.toNat) 0

def pairs? (order : ByteOrder) : Bytes → Option (List Nat)
  | [] => some []
  | first :: second :: rest => (order.pairs? rest).map (order.number [first, second] :: ·)
  | [_] => none

def lastCodePoint : Nat := 0x10ffff

def quadruples? (order : ByteOrder) : Bytes → Option (List Nat)
  | [] => some []
  | first :: second :: third :: fourth :: rest =>
      let unit := order.number [first, second, third, fourth]
      if unit ≤ lastCodePoint then (order.quadruples? rest).map (unit :: ·) else none
  | _ => none

end ByteOrder

namespace Layout

def ofBytes : Bytes → Layout
  | first :: second :: third :: fourth :: _ =>
      if first = 0 then if second = 0 then utf32 .bigFirst else utf16 .bigFirst
      else if second = 0 then
        if third = 0 ∧ fourth = 0 then utf32 .littleFirst else utf16 .littleFirst
      else utf8
  | [first, second] =>
      if first = 0 then utf16 .bigFirst
      else if second = 0 then utf16 .littleFirst
      else utf8
  | _ => utf8

def mark : Char := '\ufeff'

/-- The text that bytes spell in a layout.  Half of a surrogate pair that stands alone reads as the
replacement character. -/
def decode? (bytes : Bytes) : Layout → Option (List Char)
  | utf8 =>
      (Utf8.decode? bytes).map fun text => if text.head? = some mark then text.tail else text
  | utf16 order =>
      (order.pairs? bytes).map fun units =>
        (Surrogate.characters units).map fun character => character.getD Utf8.replacement
  | utf32 order =>
      (order.quadruples? bytes).map fun units =>
        units.map fun unit => (Surrogate.alone? unit).getD Utf8.replacement

end Layout

def ofBytes? (bytes : Bytes) : Option (List Char) :=
  (Layout.ofBytes bytes).decode? bytes

end CommitmentLog.Text
