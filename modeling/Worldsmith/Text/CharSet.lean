/-
Sets of characters, given by their edges.

A property of characters such as being a letter holds on some hundreds of stretches of
code points.  A set is the ascending list of the code points where membership changes:
nothing below the first edge is a member, everything from it up to the second is, and
so on by turns.
-/
namespace Worldsmith.Text

structure CharSet where
  /-- Ascending; members lie from an edge at an even position up to the next edge. -/
  edges : List Nat

/-- A character is a member when an odd number of edges lie at or below it. -/
def CharSet.contains (s : CharSet) (c : Char) : Bool :=
  (s.edges.takeWhile (· ≤ c.toNat)).length % 2 == 1

end Worldsmith.Text
