/-
What can go wrong with a world, and the four tables it can go wrong in.
-/
import Worldsmith.Requirement.Basic

namespace Worldsmith

open Text (quoted)

/-- The four tables of a world.  Each is a name space of its own. -/
inductive TableName where
  | items
  | locations
  | categories
  | options
  deriving DecidableEq, Repr

namespace TableName

/-- The tables in the order in which they are listed and written. -/
def all : List TableName := [.items, .locations, .categories, .options]

def text : TableName → String
  | .items => "items"
  | .locations => "locations"
  | .categories => "categories"
  | .options => "options"

end TableName

inductive WorldError where
  | duplicateName (table : TableName) (name : String)
  | emptyName (table : TableName)
  /-- An item with no copies. -/
  | invalidCount (name : String)
  | invalidRequirement (location : String) (cause : RequirementError)
  | unknownCategory (name : String)
  /-- `referrer` names something that its table does not hold. -/
  | unresolvedReference (table : TableName) (referrer name : String)
  deriving DecidableEq, Repr

def WorldError.message : WorldError → String
  | .duplicateName table name => table.text ++ " entry " ++ quoted name ++ " already exists"
  | .emptyName table => table.text ++ " entry name must not be empty"
  | .invalidCount name => "item " ++ quoted name ++ " must have a positive count"
  | .invalidRequirement location cause =>
    "invalid requirement on location " ++ quoted location ++ ": " ++ cause.message
  | .unknownCategory name => "category " ++ quoted name ++ " is not registered"
  | .unresolvedReference table referrer name =>
    quoted referrer ++ " references " ++ quoted name ++ ", which is missing from " ++ table.text

end Worldsmith
