import CardEffects.Rule.Action
import CardEffects.Rule.Event
import CardEffects.Rule.Selector

/-!
# Effects
-/

namespace CardEffects

/-- A triggered ability: when the event occurs, do the action to the target. -/
structure Effect where
  event : Event
  action : Action
  targeting : Targeting
  /-- The owner and the subscription, while the effect is on. -/
  active : Option (EntityId × Binding) := none

namespace Effect

def isActive (effect : Effect) : Bool :=
  effect.active.isSome

def owner (effect : Effect) : Option EntityId :=
  effect.active.map (·.1)

end Effect

end CardEffects
