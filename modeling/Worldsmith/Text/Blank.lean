/-
White space, and text that is nothing but white space.

The set is the standard's property White_Space: the spaces and line ends of every
script, but not the zero-width ones.
-/
import Worldsmith.Text.CharSet

namespace Worldsmith.Text

/-- The characters with the property White_Space. -/
def spaceSet : CharSet where
  edges := [
    0x9, 0xe, 0x20, 0x21, 0x85, 0x86, 0xa0, 0xa1, 0x1680, 0x1681, 0x2000, 0x200b, 0x2028, 0x202a,
    0x202f, 0x2030, 0x205f, 0x2060, 0x3000, 0x3001]

def isSpace (c : Char) : Bool := spaceSet.contains c

/-- Text is blank when it shows nothing: it is empty, or white space throughout. -/
def isBlank (s : String) : Bool := s.toList.all isSpace

/-- The text without the white space at its end. -/
def trimEnd (cs : List Char) : List Char := (cs.reverse.dropWhile isSpace).reverse

/-- The text without the white space at either end. -/
def trim (cs : List Char) : List Char := trimEnd (cs.dropWhile isSpace)

end Worldsmith.Text
