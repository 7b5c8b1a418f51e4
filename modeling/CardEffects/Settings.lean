import CardEffects.Amount
import CardEffects.PerPlayer

/-!
# Settings

What a board is made with.
-/

namespace CardEffects

/-- The settings a board is made with. -/
structure Settings where
  /-- The number of players. -/
  playerCount : Nat
  /-- The health, and the greatest health, of each hero at the start. -/
  heroHealth : Amount
  /-- How many occurrences may be under way at once. -/
  maxDispatchDepth : Nat
  deriving DecidableEq

namespace Settings

/-- A hero starts with 30 health. -/
def defaultHeroHealth : Amount := { val := 30 }

/-- At most 32 occurrences are under way at once. -/
def defaultMaxDispatchDepth : Nat := 32

/-- The usual settings for a number of players that can sit at a table. -/
def new (playerCount : Nat) : Except PlayerCountFault Settings := do
  checkPlayerCount playerCount
  return ⟨playerCount, defaultHeroHealth, defaultMaxDispatchDepth⟩

/-- The usual settings for two players. -/
def standard : Settings :=
  ⟨2, defaultHeroHealth, defaultMaxDispatchDepth⟩

def summary (settings : Settings) : String :=
  s!"GameConfig \x7b player_count: {settings.playerCount}, " ++
  s!"hero_health: {settings.heroHealth.val}, " ++
  s!"max_dispatch_depth: {settings.maxDispatchDepth} \x7d"

end Settings

end CardEffects
