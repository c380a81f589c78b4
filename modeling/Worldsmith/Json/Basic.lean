/-
JSON documents.

Objects keep their members in the order in which they are written, and a name may
occur twice.  The only numbers that this library writes or takes from a file are
integers, so a document holds integers and one further leaf, `foreign`, for all that is
well formed but that nothing here can hold: a number with a fraction or an exponent,
minus zero, and text with half a surrogate pair in it.
-/
namespace Worldsmith

inductive Json where
  | null
  | bool (b : Bool)
  | int (n : Int)
  | text (s : String)
  | list (elements : List Json)
  | object (members : List (String × Json))
  | foreign
  deriving Repr

namespace Json

/-- The characters that may stand between tokens. -/
def isSpace (c : Char) : Bool := c == ' ' || c == '\n' || c == '\t' || c == '\r'

/-- The characters that a backslash and one letter stand for, with the letter. -/
def shortEscapes : List (Char × Char) :=
  [('"', '"'), ('\\', '\\'), ('\x08', 'b'), ('\x0c', 'f'), ('\n', 'n'), ('\r', 'r'), ('\t', 't')]

/-! ### Reading values out of a document -/

def text? : Json → Option String
  | .text s => some s
  | _ => none

def bool? : Json → Option Bool
  | .bool b => some b
  | _ => none

/-- A number of 32 bits. -/
def word? : Json → Option UInt32
  | .int (.ofNat n) => if h : n < UInt32.size then some (.ofNatLT n h) else none
  | _ => none

/-- Either null, or what `read` takes. -/
def nullable? {α : Type} (read : Json → Option α) : Json → Option (Option α)
  | .null => some none
  | j => (read j).map some

/-- The fields of a record.  It is an object in which each of them occurs at most once,
other members being passed over, or a list of their values in order, which may end
before the last. -/
def record? (fields : List String) : Json → Option (List (String × Json))
  | .object members =>
    let known := members.filter fun m => fields.contains m.1
    if (known.map Prod.fst).Nodup then some known else none
  | .list elements =>
    if elements.length ≤ fields.length then some (fields.zip elements) else none
  | _ => none

end Json

end Worldsmith
