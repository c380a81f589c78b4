/-
Documents in RON, the object notation for hand-edited content.

The notation writes records as `Name(field: value)` or without the name, optional values
as `Some(value)` and `None`, maps in braces and lists in brackets.  A document is kept
as it was written: which record or number a value has to be is asked only when it is
read out, because the notation itself does not say.

A value that no field asks for has to be well formed all the same, and must not be
nested too deeply.  `depth` is the measure of that: each bracket counts one, and so does
each step into an element.  `Some` counts one as a rule; only where its parentheses may
hold several values can one value take more steps to get to.
-/
import Worldsmith.Text.Identifier

namespace Worldsmith

inductive Ron where
  /-- Two parentheses with nothing between them. -/
  | unit
  | bool (b : Bool)
  /-- A number in its own spelling. -/
  | number (spelling : List Char)
  | text (s : String)
  /-- A literal that no content is made of: a character, bytes, or no finite number. -/
  | literal
  | absent
  /-- A value in its wrapping, and the steps it takes to get through the wrapping. -/
  | present (steps : Nat) (v : Ron)
  | list (vs : List Ron)
  | map (entries : List (Ron × Ron))
  /-- A name that nothing follows. -/
  | name (n : String)
  | tuple (name? : Option String) (vs : List Ron)
  | record (name? : Option String) (fields : List (String × Ron))
  deriving Repr

namespace Ron

/-- The extensions that a document may switch on and that change how it is read. -/
structure Dialect where
  /-- The word `Some` may be left out. -/
  implicitSome : Bool := false
  /-- A record must have its name. -/
  explicitNames : Bool := false
  /-- The parentheses of `Some` may hold fields or several values, as if they stood in
  parentheses of their own. -/
  openSome : Bool := false
  deriving DecidableEq, Repr

/-- How many steps a reader may go down into a document. -/
def maxDepth : Nat := 128

mutual

/-- The number of steps it takes to reach the innermost part. -/
def depth : Ron → Nat
  | .present steps v => steps + v.depth
  | .list vs => 1 + depthOfAll vs
  | .tuple _ vs => 1 + depthOfAll vs
  | .map entries => 1 + depthOfEntries entries
  | .record _ fields => 1 + depthOfFields fields
  | _ => 0

def depthOfAll : List Ron → Nat
  | [] => 0
  | v :: vs => max (1 + v.depth) (depthOfAll vs)

def depthOfEntries : List (Ron × Ron) → Nat
  | [] => 0
  | (k, v) :: es => max (1 + max k.depth v.depth) (depthOfEntries es)

def depthOfFields : List (String × Ron) → Nat
  | [] => 0
  | (_, v) :: fs => max (1 + v.depth) (depthOfFields fs)

end

/-! ### The characters of the notation -/

/-- Line ends, the plain space and tabs, and the marks of direction. -/
def isSpace (c : Char) : Bool :=
  c ∈ [' ', '\t', '\n', '\r', '\x0b', '\x0c', '\u0085', '\u200e', '\u200f', '\u2028', '\u2029']

/-- The characters of a raw identifier. -/
def isRawIdentifier (c : Char) : Bool :=
  c == '.' || c == '+' || c == '-' || Text.isIdentifierContinue c

end Ron

end Worldsmith
