import CardEffects.Identity
import CardEffects.Rule.Condition

/-!
# Events

An event names an occurrence and says whose surface to listen on for it.
-/

namespace CardEffects

/-- What an occurrence reports. -/
structure Payload where
  /-- What the occurrence is about. -/
  focus : Option EntityId := none
  /-- The second participant. -/
  other : Option EntityId := none
  amount : Option Amount := none
  deriving DecidableEq

/-- Whose surface an event is listened for on. -/
inductive Scope where
  /-- The surface of the entity itself. -/
  | minion
  /-- The surface of the player who controls the entity. -/
  | player
  deriving DecidableEq

/-- A named occurrence, with the condition that gates it if there is one. -/
structure Event where
  name : String
  scope : Scope
  condition : Option Condition := none

/-- A subscription that is in force: for whom, where, to what, and its number. -/
structure Binding where
  target : EntityId
  surface : EntityId
  event : String
  listener : ListenerId
  deriving DecidableEq

/-! The occurrences that a board itself fires. -/

namespace Occurrence

/-- Fired on the victim of damage, which is the focus. -/
def damaged : String := "damaged"

/-- Fired on the hero of the victim's controller, with the payload of `damaged`. -/
def characterDamaged : String := "character_damaged"

/-- Fired on the hero whose turn ends. -/
def turnEnded : String := "turn_ended"

/-- Fired on the hero whose turn starts. -/
def turnStarted : String := "turn_started"

/-- Fired on the hero of the player who summons the minion in focus. -/
def minionSummoned : String := "minion_summoned"

end Occurrence

end CardEffects
