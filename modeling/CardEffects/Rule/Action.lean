import CardEffects.Amount

/-!
# Actions

What a rule does to one entity. A stat change can be taken back; damage and healing cannot.
-/

namespace CardEffects

/-! The stats that rules read and write. -/

namespace Stat

def attack : String := "attack"

/-- The stat for health left. -/
def health : String := "health"

/-- The stat for health when undamaged. -/
def maxHealth : String := "max_health"

/-- The stat that counts grants of taunt. -/
def taunt : String := "taunt"

end Stat

/-- A change that can be taken back. -/
inductive StatChange where
  /-- Add to attack. -/
  | attack (amount : Amount)
  /-- Add to health and to the greatest health. -/
  | health (amount : Amount)
  /-- Grant taunt once. -/
  | taunt
  deriving DecidableEq

/-- What a rule does to its target. -/
inductive Action where
  /-- Make a stat change. -/
  | change (change : StatChange)
  /-- Deal damage from no source. -/
  | damage (amount : Amount)
  /-- Restore health, up to the greatest health. -/
  | heal (amount : Amount)
  deriving DecidableEq

end CardEffects
