/-
References that lead nowhere.

Registration does not ask whether a name that is referred to exists, for it may be
registered later.  Once a world is full, the check below finds every reference to an
item, a category or an option that is not there.  A category need not be registered:
it is enough that some item belongs to it.  The categories that items and locations
belong to are therefore not checked themselves.
-/
import Worldsmith.Requirement.Scan
import Worldsmith.World.Basic

namespace Worldsmith.World

variable (w : World)

def knowsItem (name : String) : Bool := w.items.contains name

/-- A category is known when it is registered or some item belongs to it. -/
def knowsCategory (name : String) : Bool :=
  w.categories.contains name || w.items.values.any (·.categories.contains name)

def knowsOption (name : String) : Bool := w.options.contains name

/-- The reports of the names that are not known, in the order of the names. -/
def missing (table : TableName) (known : String → Bool) (referrer : String)
    (names : List String) : List WorldError :=
  (names.filter fun n => !known n).map (.unresolvedReference table referrer)

/-- The report of a subject that is not known. -/
def missingSubject (referrer : String) : Subject → List WorldError
  | .item name => missing .items w.knowsItem referrer [name]
  | .category name => missing .categories w.knowsCategory referrer [name]

/-- A location refers to the subjects of its requirement, to the items placed there, and
to the categories of items placed there. -/
def missingFromLocation (name : String) (l : Location) : List WorldError :=
  ((l.requires?.map Mention.scan).getD []).flatMap (w.missingSubject name ·.subject)
    ++ missing .items w.knowsItem name l.placedItems
    ++ missing .categories w.knowsCategory name l.placedItemCategories

/-- Every reference that does not resolve: those of locations, then those of categories
to their options, each in the order of registration and with repetitions. -/
def unresolved : List WorldError :=
  w.locations.entries.flatMap (fun e => w.missingFromLocation e.1 e.2)
    ++ w.categories.entries.flatMap (fun e => missing .options w.knowsOption e.1 e.2.options)

/-- Fails with the first reference that does not resolve. -/
def validate : Except WorldError Unit :=
  match w.unresolved.head? with
  | some e => .error e
  | none => .ok ()

end Worldsmith.World
