/-!
# White space

Two classes of white space at the ends of texts.  `isSpace` is the white space of the character standard.
`isBlank` counts the four information separators of ASCII as well.
-/

set_option autoImplicit false

namespace CommitmentLog.Text

def isSpace (character : Char) : Bool :=
  let code := character.toNat
  (9 ≤ code && code ≤ 13) || code = 0x20 || code = 0x85 || code = 0xa0 || code = 0x1680 ||
    (0x2000 ≤ code && code ≤ 0x200a) || code = 0x2028 || code = 0x2029 || code = 0x202f ||
    code = 0x205f || code = 0x3000

/-- White space or one of the information separators. -/
def isBlank (character : Char) : Bool :=
  isSpace character || (0x1c ≤ character.toNat && character.toNat ≤ 0x1f)

/-- The text without the characters of a class at its two ends. -/
def trim (isOuter : Char → Bool) (text : List Char) : List Char :=
  ((text.dropWhile isOuter).reverse.dropWhile isOuter).reverse

/-- The parts of a text between the places where a separator stands; one part more than separators. -/
def splitAt (separator : Char) : List Char → List (List Char)
  | [] => [[]]
  | character :: rest =>
      if character = separator then [] :: splitAt separator rest
      else
        match splitAt separator rest with
        | [] => [[character]]
        | first :: others => (character :: first) :: others

end CommitmentLog.Text
