/-
Worlds: the tables of items, locations, categories and options.

A world is filled by one registration after another.  A name is registered once in a
table and for good; the same name in another table is another thing.  A registration
that fails gives no world back, so the caller still has the one he had.
-/
import Worldsmith.World.Entity

namespace Worldsmith

structure World where
  items : Table String Item := ∅
  locations : Table String Location := ∅
  categories : Table String Category := ∅
  options : Table String ToggleOption := ∅

namespace World

instance : Inhabited World := ⟨{}⟩

/-- The table with an entity under its name, unless the name is taken. -/
def register {ε : Type} (table : TableName) (t : Table String ε) (name : String)
    (made : Except WorldError ε) : Except WorldError (ε × Table String ε) :=
  if h : name ∈ t.keys then .error (.duplicateName table name)
  else made.map fun e => (e, t.push name e h)

def addItem (w : World) (name : String) (spec : Item.Spec) :
    Except WorldError (Item × World) := do
  let (item, items) ← register .items w.items name (Item.make name spec)
  return (item, { w with items })

def addLocation (w : World) (name : String) (spec : Location.Spec) :
    Except WorldError (Location × World) := do
  let (location, locations) ← register .locations w.locations name (Location.make name spec)
  return (location, { w with locations })

def addCategory (w : World) (name : String) (spec : Category.Spec) :
    Except WorldError (Category × World) := do
  let (category, categories) ← register .categories w.categories name (Category.make name spec)
  return (category, { w with categories })

def addOption (w : World) (name : String) (spec : ToggleOption.Spec) :
    Except WorldError (ToggleOption × World) := do
  let (option, options) ← register .options w.options name (ToggleOption.make name spec)
  return (option, { w with options })

/-- Gates a registered category by more options. -/
def gateCategory (w : World) (name : String) (options : Reference ToggleOption) :
    Except WorldError (Category × World) :=
  match w.categories.get? name with
  | none => .error (.unknownCategory name)
  | some c =>
    .ok (c.gate options, { w with categories := w.categories.modify name (·.gate options) })

/-- The number of entries of a table. -/
def size (w : World) : TableName → Nat
  | .items => w.items.size
  | .locations => w.locations.size
  | .categories => w.categories.size
  | .options => w.options.size

def isEmpty (w : World) : Bool :=
  w.items.isEmpty && w.locations.isEmpty && w.categories.isEmpty && w.options.isEmpty

/-- The number of copies of items in the pool. -/
def itemCount (w : World) : Nat := w.items.values.foldr (fun i n => i.count + n) 0

end World

end Worldsmith
