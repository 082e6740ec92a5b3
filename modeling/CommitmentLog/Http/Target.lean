import CommitmentLog.Text.Blank
import CommitmentLog.Text.Utf8

/-!
# Request targets

A target is a path and a query.  The escapes of the path are undone before the service sees it, and those of
the query when it is read.  Of a repeated query key the last value counts.
-/

set_option autoImplicit false

namespace CommitmentLog.Http

/-! ## Escapes -/

/-- The bytes of a text in which an escape of two hexadecimal digits stands for one byte. -/
def unescapedBytes : List Char → Bytes
  | '%' :: high :: low :: rest =>
      match Hex.digitValue? high, Hex.digitValue? low with
      | some first, some second => UInt8.ofNat (16 * first + second) :: unescapedBytes rest
      | _, _ => Text.Utf8.encode ['%'] ++ unescapedBytes (high :: low :: rest)
  | character :: rest => Text.Utf8.encode [character] ++ unescapedBytes rest
  | [] => []

def unescape (text : List Char) : List Char :=
  Text.Utf8.decode (unescapedBytes text)

/-! ## Queries -/

/-- The text before the first separator and the text behind it, if there is one. -/
def cut (separator : Char) : List Char → List Char × Option (List Char)
  | [] => ([], none)
  | character :: rest =>
      if character = separator then ([], some rest)
      else
        let (before, behind) := cut separator rest
        (character :: before, behind)

/-- A key or a value of a query: a plus sign stands for a blank. -/
def queryText (text : List Char) : List Char :=
  unescape (text.map fun character => if character = '+' then ' ' else character)

def queryPairs (text : List Char) : List (List Char × List Char) :=
  ((Text.splitAt '&' text).filter fun part => !part.isEmpty).map fun part =>
    let (key, value) := cut '=' part
    (queryText key, queryText (value.getD []))

/-! ## Targets -/

structure Target where
  /-- The path without its escapes. -/
  path : List Char
  query : List Char
  deriving DecidableEq, Repr

namespace Target

def value? (target : Target) (key : String) : Option (List Char) :=
  ((queryPairs target.query).reverse.find? fun pair => pair.1 = key.toList).map (·.2)

/-- A character of a path as it is counted: a blank that ends a line or a field is left out, and a character
that would end the path, or be taken for a slash, is escaped. -/
def labelOf (character : Char) : List Char :=
  if ['\t', '\n', '\r'].contains character then []
  else if character = '?' then ['%', '3', 'F']
  else if character = '#' then ['%', '2', '3']
  else if character = '\\' then ['%', '5', 'C']
  else [character]

/-- The path as it is counted where no route has it. -/
def label (target : Target) : String :=
  String.ofList (target.path.flatMap labelOf)

/-- The path with a slash at its end, or without the slashes there. -/
def toggledPath (target : Target) : List Char :=
  match target.path.getLast? with
  | some '/' => (target.path.reverse.dropWhile fun character => character = '/').reverse
  | _ => target.path ++ ['/']

end Target

end CommitmentLog.Http
