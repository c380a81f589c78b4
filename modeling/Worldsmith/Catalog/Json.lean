/-
Catalogs in JSON.

Every record may be an object, with fields that are not known passed over, or a list of
the values of its fields in order.  A map is always an object; a name that occurs twice
keeps its first place and its last value.
-/
import Worldsmith.Catalog.Basic
import Worldsmith.Json.Writer

namespace Worldsmith

namespace Json

/-- A field of a record, or what stands for it when it is left out. -/
def field? {α : Type} (record : List (String × Json)) (name : String)
    (read : Json → Option α) (default? : Option α) : Option α :=
  match record.lookup name with
  | some j => read j
  | none => default?

/-- A map from names, in the order in which they first occur. -/
def table? {α : Type} (read : Json → Option α) : Json → Option (Table String α)
  | .object members => (members.mapM fun m => (read m.2).map (m.1, ·)).map Table.ofList
  | _ => none

end Json

open Json (field? table? word? text? bool? nullable?)

/-! ### Reading -/

def Campaign.ofJson? (j : Json) : Option Campaign := do
  let r ← j.record? ["episodes", "dlc"]
  return {
    episodes? := ← field? r "episodes" (nullable? word?) (some none)
    pack? := ← field? r "dlc" (nullable? text?) (some none) }

def ExtraEpisode.ofJson? (j : Json) : Option ExtraEpisode := do
  let r ← j.record? ["dlc"]
  return { pack? := ← field? r "dlc" (nullable? text?) (some none) }

def Character.ofJson? (j : Json) : Option Character := do
  let r ← j.record? ["goal"]
  return { goal? := ← field? r "goal" (nullable? text?) (some none) }

def Card.ofJson? (j : Json) : Option Card := do
  let r ← j.record? ["count"]
  return { count := ← field? r "count" word? none }

/-- A victory is an object with one member, which is named for the kind of goal. -/
def Victory.ofJson? : Json → Option Victory
  | .object [("oranges", j)] => do
    let r ← j.record? ["location", "count", "percent"]
    return .oranges
      (← field? r "location" text? none)
      (← field? r "count" word? (some defaultOranges))
      (← field? r "percent" text? (some defaultOrangePercent))
  | .object [("completed_campaigns", j)] => do
    let r ← j.record? ["location", "percent"]
    return .completedCampaigns
      (← field? r "location" text? none)
      (← field? r "percent" text? (some defaultCompletionPercent))
  | _ => none

def Catalog.ofJson? (j : Json) : Option Catalog := do
  let r ← j.record?
    ["campaigns", "extra_episodes", "characters", "cards", "victory", "track_completion"]
  return {
    campaigns := ← field? r "campaigns" (table? Campaign.ofJson?) (some ∅)
    extraEpisodes := ← field? r "extra_episodes" (table? ExtraEpisode.ofJson?) (some ∅)
    characters := ← field? r "characters" (table? Character.ofJson?) (some ∅)
    cards := ← field? r "cards" (table? Card.ofJson?) (some ∅)
    victory? := ← field? r "victory" (nullable? Victory.ofJson?) (some none)
    trackCompletion := ← field? r "track_completion" bool? (some false) }

/-! ### Writing -/

namespace Json

def ofWord (n : UInt32) : Json := .int n.toNat

/-- Null where there is no value. -/
def ofOption {α : Type} (write : α → Json) (a? : Option α) : Json := (a?.map write).getD .null

def ofTable {α : Type} (write : α → Json) (t : Table String α) : Json :=
  .object (t.entries.map fun e => (e.1, write e.2))

end Json

open Json (ofWord ofOption ofTable)

def Campaign.toJson (c : Campaign) : Json :=
  .object [("episodes", ofOption ofWord c.episodes?), ("dlc", ofOption .text c.pack?)]

def ExtraEpisode.toJson (e : ExtraEpisode) : Json := .object [("dlc", ofOption .text e.pack?)]

def Character.toJson (c : Character) : Json := .object [("goal", ofOption .text c.goal?)]

def Card.toJson (c : Card) : Json := .object [("count", ofWord c.count)]

def Victory.toJson : Victory → Json
  | .oranges location count percent =>
    .object [("oranges", .object [
      ("location", .text location), ("count", ofWord count), ("percent", .text percent)])]
  | .completedCampaigns location percent =>
    .object [("completed_campaigns", .object [
      ("location", .text location), ("percent", .text percent)])]

/-- The catalog with every field written out. -/
def Catalog.toJson (c : Catalog) : Json :=
  .object [
    ("campaigns", ofTable Campaign.toJson c.campaigns),
    ("extra_episodes", ofTable ExtraEpisode.toJson c.extraEpisodes),
    ("characters", ofTable Character.toJson c.characters),
    ("cards", ofTable Card.toJson c.cards),
    ("victory", ofOption Victory.toJson c.victory?),
    ("track_completion", .bool c.trackCompletion)]

end Worldsmith
