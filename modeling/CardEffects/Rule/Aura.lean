import CardEffects.Rule.Action
import CardEffects.Rule.Event
import CardEffects.Rule.Selector

/-!
# Auras

An aura makes a stat change when it is put on and takes it back when it is taken off. A minion
aura covers the minions that its selector picks, a player aura covers its owner until an event
occurs.
-/

namespace CardEffects

/-- Whose minions an aura covers, seen from the player who controls its owner. -/
inductive Coverage where
  | friendly
  | enemy
  | all
  deriving DecidableEq

/-- From which minions an aura is taken back. -/
inductive RemovalPolicy where
  /-- From those it was put on. -/
  | snapshot
  /-- From those that the selector picks at that time. -/
  | recompute
  deriving DecidableEq

/-- Where an aura is registered: its number, its owner, and the player who holds it. -/
structure Slot where
  id : AuraId
  owner : EntityId
  holder : PlayerId
  deriving DecidableEq

/-- An aura over the minions that a selector picks. -/
structure MinionAura where
  change : StatChange
  selector : Selector
  players : Coverage := .friendly
  removal : RemovalPolicy := .snapshot
  /-- The slot it is on for and the minions it is on, while it is on. -/
  active : Option (Slot × List EntityId) := none
  deriving DecidableEq

/-- An aura over its owner, until an event occurs. -/
structure PlayerAura where
  change : StatChange
  ending : Event
  /-- The slot it is on for and the subscription to its ending, while it is on. -/
  active : Option (Slot × Binding) := none

/-- An aura of either kind. -/
inductive Aura where
  | minions (aura : MinionAura)
  | player (aura : PlayerAura)

/-- The minions that a minion aura is on. -/
def MinionAura.affected (aura : MinionAura) : List EntityId :=
  (aura.active.map (·.2)).getD []

namespace Aura

def isActive : Aura → Bool
  | .minions aura => aura.active.isSome
  | .player aura => aura.active.isSome

/-- Whether the aura follows the minions as they come and go. -/
def tracksBoard : Aura → Bool
  | .minions _ => true
  | .player _ => false

end Aura

end CardEffects
