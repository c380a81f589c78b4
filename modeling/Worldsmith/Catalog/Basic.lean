/-
Catalogs: what an author says about the content of a world.

A catalog lists campaigns, extra episodes, characters and cards by name, in the order of
the file, and says how the world is won.  Everything in it is optional, and the world's
tables follow from it.
-/
import Worldsmith.Table

namespace Worldsmith

structure Campaign where
  /-- The number of regular episodes, before the final one. -/
  episodes? : Option UInt32 := none
  /-- The content pack that the campaign belongs to. -/
  pack? : Option String := none
  deriving DecidableEq, Repr

def Campaign.regularEpisodes (c : Campaign) : Nat := (c.episodes?.map UInt32.toNat).getD 0

structure ExtraEpisode where
  pack? : Option String := none
  deriving DecidableEq, Repr

structure Character where
  /-- Something to achieve with the character. -/
  goal? : Option String := none
  deriving DecidableEq, Repr

structure Card where
  count : UInt32
  deriving DecidableEq, Repr

/-- How the world is won: by collecting a share of the oranges, or by completing a share
of the campaigns. -/
inductive Victory where
  | oranges (location : String) (count : UInt32) (percent : String)
  | completedCampaigns (location : String) (percent : String)
  deriving DecidableEq, Repr

namespace Victory

/-! What holds when an author does not say. -/

def defaultOranges : UInt32 := 50

def defaultOrangePercent : String := "70%"

def defaultCompletionPercent : String := "80%"

end Victory

structure Catalog where
  campaigns : Table String Campaign := ∅
  extraEpisodes : Table String ExtraEpisode := ∅
  characters : Table String Character := ∅
  cards : Table String Card := ∅
  victory? : Option Victory := none
  /-- Is there an item for completing each campaign? -/
  trackCompletion : Bool := false

instance : Inhabited Catalog := ⟨{}⟩

end Worldsmith
