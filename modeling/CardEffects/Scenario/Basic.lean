import CardEffects.Game.Dispatch
import CardEffects.Record.Reader

/-!
# Scenarios

A scenario is a list of commands for one game. Commands name rules by their records or by names
under which rules are kept at hand beside the board, and a command may subscribe a list of further
commands to an occurrence. Every command gives an answer; what subscribed commands do is logged.
-/

namespace CardEffects

namespace Scenario

/-- Where the effect of a command comes from. -/
inductive EffectSource where
  /-- The record of the effect. -/
  | record (record : Json)
  | built (effect : Effect)
  /-- The effect that is kept under a name. It is kept no longer. -/
  | held (name : String)

/-- Where the aura of a command comes from. -/
inductive AuraSource where
  /-- The record of a minion aura. -/
  | minionRecord (record : Json)
  /-- The record of a player aura. -/
  | playerRecord (record : Json)
  | built (aura : Aura)
  /-- The aura that is kept under a name. It is kept no longer. -/
  | held (name : String)

/-- A command. Rule parts are given by their records. -/
inductive Command where
  | summon (player : PlayerId) (place : Option Nat) (name : String) (attack health : Amount)
  | removeMinion (minion : EntityId)
  | raiseStat (entity : EntityId) (key : String) (amount : Amount)
  | lowerStat (entity : EntityId) (key : String) (amount : Amount)
  | setStat (entity : EntityId) (key : String) (value : Amount)
  | readStat (entity : EntityId) (key : String)
  | dealDamage (source : Option EntityId) (target : EntityId) (amount : Amount)
  | endTurn
  | refreshAuras
  | describeEntity (entity : EntityId)
  | describePlayer (player : PlayerId)
  | summarize
  | describeBoard
  | fire (surface : EntityId) (event : String) (args : Payload)
  | unsubscribe (surface : EntityId) (event : String) (listener : ListenerId)
  | countListeners (surface : EntityId) (event : String)
  | countAllListeners (surface : EntityId)
  /-- Release the subscription kept under a name, through its own event or through another. -/
  | release (name : String) (event : Option Json)
  | findSurface (event : Json) (target : EntityId)
  | act (action : Json) (target : EntityId)
  | undo (action : Json) (target : EntityId)
  | select (selector : Json) (source : EntityId) (candidates : List EntityId)
  | judge (selector : Json) (source : EntityId) (candidates : List EntityId)
  | resolve (targeting : Json) (owner : EntityId) (focus other : Option EntityId)
  | evaluate (condition : Json) (target : EntityId) (args : Payload)
  | listMinions (players : Coverage) (owner : EntityId)
  | attachEffect (owner : EntityId) (effect : EffectSource)
  | detachEffects (owner : EntityId)
  | keepEffect (name : String) (effect : EffectSource)
  | switchOnEffect (name : String) (owner : EntityId)
  | switchOffEffect (name : String)
  | addAura (holder : PlayerId) (owner : EntityId) (aura : AuraSource)
  | removeAura (aura : AuraId)
  | keepAura (name : String) (aura : AuraSource)
  | switchOnAura (name : String) (slot : Slot)
  | switchOffAura (name : String)

/-- The command with the payload that a subscribed command was called with. -/
def Command.passing (args : Payload) : Command → Command
  | .fire surface event _ => .fire surface event args
  | .evaluate condition target _ => .evaluate condition target args
  | command => command

/-- What commands are subscribed to. -/
inductive Occasion where
  /-- An occurrence on a surface. -/
  | occurrence (surface : EntityId) (event : String)
  /-- An event, given by its record, on behalf of a target. The subscription is kept under a
  name. -/
  | event (record : Json) (target : EntityId) (name : String)

/-- How a subscribed command is carried out. -/
structure Manner where
  /-- Go on after a fault. -/
  tolerant : Bool := false
  /-- Use the payload of the call. -/
  passing : Bool := false

/-- A list of commands. -/
inductive Script where
  | done
  | step (command : Command) (manner : Manner) (rest : Script)
  /-- Subscribe a list of commands, which goes by a tag in the log. -/
  | listen (occasion : Occasion) (tag : Json) (body : Script) (manner : Manner)
    (rest : Script)

/-- What a command says about an entity. -/
structure EntityReport where
  contains : Bool
  controller : Option PlayerId
  minion : Option Minion
  effects : Nat

/-- The answer to a command. -/
inductive Answer where
  | nothing
  | amount (amount : Option Amount)
  | number (number : Nat)
  | truth (value : Bool)
  | truths (values : List Bool)
  | entity (entity : Option EntityId)
  | entities (entities : List EntityId)
  | text (text : String)
  | minion (id : EntityId) (minion : Minion)
  | report (report : EntityReport)
  | player (player : Option Player)
  | board (board : Board)
  | binding (binding : Binding)
  | effect (effect : Effect)
  | aura (aura : Aura)
  /-- Nothing is kept under the name. -/
  | notKept (name : String)

/-- An entry of the log. -/
inductive LogEntry where
  /-- Subscribed commands are called. -/
  | called (tag : Json) (args : Payload)
  /-- The answer to a subscribed command. -/
  | answered (tag : Json) (index : Nat) (answer : Except Fault Answer)
  /-- A fault ends the subscribed commands. -/
  | stopped (tag : Json) (index : Nat) (fault : Fault)
  /-- How a fault left an aura that is kept at hand. -/
  | left (aura : Aura)

/-- What became of one command of a scenario. -/
structure Report where
  answer : Except Fault Answer
  log : List LogEntry
  /-- The board after the command. -/
  board : Board

/-- What a scenario keeps beside the board. -/
structure Bench where
  effects : Table String Effect := []
  auras : Table String Aura := []
  bindings : Table String (Event × Binding) := []
  /-- The log of the command that is carried out, last entry first. -/
  log : List LogEntry := []
  /-- The reports on the commands before it, last one first. -/
  reports : List Report := []

end Scenario

end CardEffects
