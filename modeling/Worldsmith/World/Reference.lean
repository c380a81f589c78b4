/-
References: the ways of pointing at entities of one kind.

Whoever fills a world may write a bare name, hand over an entity he holds, or list any
mixture of both.  What counts is the names at the leaves from left to right, with
repetitions; an entity's other attributes play no part.
-/
namespace Worldsmith

/-- Things that a table keeps under their name. -/
class Named (ε : Type) where
  nameOf : ε → String

inductive Reference (ε : Type) where
  | name (n : String)
  | entity (e : ε)
  | list (rs : List (Reference ε))
  deriving Repr

namespace Reference

variable {ε : Type} [Named ε]

mutual

/-- The names that the reference denotes. -/
def names : Reference ε → List String
  | .name n => [n]
  | .entity e => [Named.nameOf e]
  | .list rs => namesOfAll rs

def namesOfAll : List (Reference ε) → List String
  | [] => []
  | r :: rs => r.names ++ namesOfAll rs

end

/-- The names of a reference that may be missing. -/
def namesOf? (r? : Option (Reference ε)) : List String := (r?.map names).getD []

end Reference

end Worldsmith
