import CommitmentLog.Hex
import CommitmentLog.Text.Printable

/-!
# Quoted texts

A text inside a message is quoted so that its ends and its invisible characters show.  Single quotes are
used unless the text holds one and no double quote.  The quote in use and the backslash are escaped, line
feed, carriage return and tabulator have short escapes, and any other character that is not printable is
written by its code point.
-/

set_option autoImplicit false

namespace CommitmentLog.Text

def quoteFor (text : List Char) : Char :=
  if text.contains '\'' && !text.contains '"' then '"' else '\''

def lowDigits : Nat → Nat → List Char
  | 0, _ => []
  | width + 1, value => lowDigits width (value / 16) ++ [Hex.digit (value % 16)]

/-- The escape of a character by its code point, in the shortest of the three widths. -/
def codeEscape (character : Char) : List Char :=
  let code := character.toNat
  if code < 0x100 then '\\' :: 'x' :: lowDigits 2 code
  else if code < 0x10000 then '\\' :: 'u' :: lowDigits 4 code
  else '\\' :: 'U' :: lowDigits 8 code

def escaped (quote character : Char) : List Char :=
  if character = quote ∨ character = '\\' then ['\\', character]
  else if character = '\n' then ['\\', 'n']
  else if character = '\r' then ['\\', 'r']
  else if character = '\t' then ['\\', 't']
  else if isPrintable character then [character]
  else codeEscape character

def quoted (text : String) : String :=
  let characters := text.toList
  let quote := quoteFor characters
  String.ofList (quote :: characters.flatMap (escaped quote) ++ [quote])

end CommitmentLog.Text
