/-
Catalogs in RON.

A record may have its name in front, and must in a dialect that says so; a map is in
braces, and an optional value is wrapped in `Some`, unless the dialect lets that be left
out.  Fields that are not known are passed over, as long as what they hold is not nested
too deeply: the reader takes two steps down to a field of a record and two to an entry
of a map.
-/
import Worldsmith.Catalog.Basic
import Worldsmith.Ron.Number
import Worldsmith.Ron.Writer

namespace Worldsmith

namespace Ron

def readText? : Ron → Option String
  | .text s => some s
  | _ => none

def readBool? : Ron → Option Bool
  | .bool b => some b
  | _ => none

def readWord? : Ron → Option UInt32
  | .number spelling => word32? spelling
  | _ => none

/-- An optional value in its wrapping. -/
def optional? {α : Type} (d : Dialect) (read : Ron → Option α) : Ron → Option (Option α)
  | .absent => some none
  | .present _ v => (read v).map some
  | v => if d.implicitSome then (read v).map some else none

/-- May a record of this name be written so?  The name is left out or right. -/
def namedWell (d : Dialect) (name : String) : Option String → Bool
  | some n => n = name
  | none => !d.explicitNames

/-- The fields that are known, if none of them occurs twice and what the others hold is
no deeper than `room` steps. -/
def knownFields? (fields : List String) (room : Nat) (fs : List (String × Ron)) :
    Option (List (String × Ron)) :=
  let (known, others) := fs.partition fun f => fields.contains f.1
  if (known.map Prod.fst).Nodup && others.all (fun f => f.2.depth ≤ room) then some known
  else none

/-- The fields of a record of a name, with `room` steps left for reading it. -/
def record? (d : Dialect) (name : String) (fields : List String) (room : Nat) :
    Ron → Option (List (String × Ron))
  | .unit => if namedWell d name none then some [] else none
  | .tuple n? [] => if namedWell d name n? then some [] else none
  | .record n? fs => if namedWell d name n? then knownFields? fields (room - 2) fs else none
  | _ => none

/-- A field of a record, or what stands for it when it is left out. -/
def field? {α : Type} (record : List (String × Ron)) (name : String)
    (read : Ron → Option α) (default? : Option α) : Option α :=
  match record.lookup name with
  | some v => read v
  | none => default?

/-- A map from texts, in the order in which they first occur. -/
def table? {α : Type} (read : Ron → Option α) : Ron → Option (Table String α)
  | .map entries =>
    (entries.mapM fun (k, v) => do return (← readText? k, ← read v)).map Table.ofList
  | _ => none

end Ron

open Ron (Dialect field? table? optional? record? readText? readBool? readWord?)

/-! ### Reading -/

/-- The steps left for reading an entry of a map in a field of the catalog. -/
def Catalog.entryRoom : Nat := Ron.maxDepth - 4

def Campaign.ofRon? (d : Dialect) (v : Ron) : Option Campaign := do
  let r ← record? d "CampaignEntry" ["episodes", "dlc"] Catalog.entryRoom v
  return {
    episodes? := ← field? r "episodes" (optional? d readWord?) (some none)
    pack? := ← field? r "dlc" (optional? d readText?) (some none) }

def ExtraEpisode.ofRon? (d : Dialect) (v : Ron) : Option ExtraEpisode := do
  let r ← record? d "ExtraEpisodeEntry" ["dlc"] Catalog.entryRoom v
  return { pack? := ← field? r "dlc" (optional? d readText?) (some none) }

def Character.ofRon? (d : Dialect) (v : Ron) : Option Character := do
  let r ← record? d "CharacterEntry" ["goal"] Catalog.entryRoom v
  return { goal? := ← field? r "goal" (optional? d readText?) (some none) }

def Card.ofRon? (d : Dialect) (v : Ron) : Option Card := do
  let r ← record? d "CardEntry" ["count"] Catalog.entryRoom v
  return { count := ← field? r "count" readWord? none }

/-- The fields of a kind of victory, which are always behind its name.  It takes two
steps to get to it, one for being optional and one for the choice of kind. -/
def Victory.fields? (d : Dialect) (kind : String) (fields : List String) :
    Ron → Option (List (String × Ron))
  | .unit => none
  | .tuple none _ => none
  | .record none _ => none
  | v => record? d kind fields (Ron.maxDepth - 4) v

def Victory.ofRon? (d : Dialect) (v : Ron) : Option Victory :=
  match Victory.fields? d "oranges" ["location", "count", "percent"] v with
  | some r => do
    return .oranges
      (← field? r "location" readText? none)
      (← field? r "count" readWord? (some defaultOranges))
      (← field? r "percent" readText? (some defaultOrangePercent))
  | none => do
    let r ← Victory.fields? d "completed_campaigns" ["location", "percent"] v
    return .completedCampaigns
      (← field? r "location" readText? none)
      (← field? r "percent" readText? (some defaultCompletionPercent))

def Catalog.ofRon? (d : Dialect) (v : Ron) : Option Catalog := do
  let r ← record? d "ContentDescription"
    ["campaigns", "extra_episodes", "characters", "cards", "victory", "track_completion"]
    Ron.maxDepth v
  return {
    campaigns := ← field? r "campaigns" (table? (Campaign.ofRon? d)) (some ∅)
    extraEpisodes := ← field? r "extra_episodes" (table? (ExtraEpisode.ofRon? d)) (some ∅)
    characters := ← field? r "characters" (table? (Character.ofRon? d)) (some ∅)
    cards := ← field? r "cards" (table? (Card.ofRon? d)) (some ∅)
    victory? := ← field? r "victory" (optional? d (Victory.ofRon? d)) (some none)
    trackCompletion := ← field? r "track_completion" readBool? (some false) }

/-! ### Writing -/

namespace Ron

def ofOption {α : Type} (write : α → Ron) : Option α → Ron
  | none => .absent
  | some a => .present 1 (write a)

def ofWord (n : UInt32) : Ron := .number (Text.decimal n.toNat).toList

def ofTable {α : Type} (write : α → Ron) (t : Table String α) : Ron :=
  .map (t.entries.map fun e => (.text e.1, write e.2))

end Ron

open Ron (ofOption ofWord ofTable)

def Campaign.toRon (c : Campaign) : Ron :=
  .record none [("episodes", ofOption ofWord c.episodes?), ("dlc", ofOption .text c.pack?)]

def ExtraEpisode.toRon (e : ExtraEpisode) : Ron := .record none [("dlc", ofOption .text e.pack?)]

def Character.toRon (c : Character) : Ron := .record none [("goal", ofOption .text c.goal?)]

def Card.toRon (c : Card) : Ron := .record none [("count", ofWord c.count)]

def Victory.toRon : Victory → Ron
  | .oranges location count percent =>
    .record (some "oranges")
      [("location", .text location), ("count", ofWord count), ("percent", .text percent)]
  | .completedCampaigns location percent =>
    .record (some "completed_campaigns") [("location", .text location), ("percent", .text percent)]

def Catalog.toRon (c : Catalog) : Ron :=
  .record none [
    ("campaigns", ofTable Campaign.toRon c.campaigns),
    ("extra_episodes", ofTable ExtraEpisode.toRon c.extraEpisodes),
    ("characters", ofTable Character.toRon c.characters),
    ("cards", ofTable Card.toRon c.cards),
    ("victory", ofOption Victory.toRon c.victory?),
    ("track_completion", .bool c.trackCompletion)]

end Worldsmith
