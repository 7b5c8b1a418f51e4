import CardEffects.Identity
import CardEffects.Json.Printer

/-!
# Faults

What can go wrong when a record is read and when a rule acts on a board, by cause, and the
message of each cause.
-/

namespace CardEffects

/-- The kinds of rule records. -/
inductive Family where
  | action
  | condition
  | selector
  | targeting
  | event
  | effect
  | aura
  deriving DecidableEq

def Family.display : Family → String
  | .action => "action"
  | .condition => "condition"
  | .selector => "selector"
  | .targeting => "targeting"
  | .event => "event"
  | .effect => "effect"
  | .aura => "aura"

/-- How a record fails to have the shape of its family. -/
inductive Malformation where
  /-- The record is not an object. -/
  | notAnObject (found : Json)
  /-- The parameters of a part are not an object. -/
  | parametersNotAnObject (name : String) (found : Json)
  /-- A required field is absent. -/
  | missingField (field : String)
  /-- The field that names the part holds something else than a string. -/
  | nameNotAString (field : String) (found : Json)
  /-- The field that lists parts holds something else than an array. -/
  | notAnArray (field : String) (found : Json)
  /-- A field is left over. -/
  | unexpectedField (field : String) (name : String)

def Malformation.message : Malformation → String
  | .notAnObject found => "expected an object, found " ++ found.print
  | .parametersNotAnObject name found =>
    name ++ " parameters serialized to " ++ found.print ++ ", expected an object"
  | .missingField field => "missing `" ++ field ++ "`"
  | .nameNotAString field found => "`" ++ field ++ "` must be a string, found " ++ found.print
  | .notAnArray field found => "`" ++ field ++ "` must be an array, found " ++ found.print
  | .unexpectedField field name => "unexpected field `" ++ field ++ "` for " ++ name

/-- The rules that are switched on and off. -/
inductive Switchable where
  | effect
  | minionAura
  | playerAura
  deriving DecidableEq

def Switchable.display : Switchable → String
  | .effect => "effect"
  | .minionAura => "minion aura"
  | .playerAura => "player aura"

/-- Why an operation fails. -/
inductive Fault where
  /-- No part of the family goes by this name. -/
  | unknownName (family : Family) (name : String)
  /-- A record does not have the shape of its family. -/
  | malformedRecord (family : Family) (reason : Malformation)
  /-- The parameters of a part, or the value of an option, are not of their type. -/
  | invalidParameters (family : Family) (name : String)
  /-- An aura names an action that cannot be taken back. -/
  | notReversible (name : String)
  /-- The entity is not in play. -/
  | unknownEntity (entity : EntityId)
  /-- The entity is not a player's hero. -/
  | notAPlayer (entity : EntityId)
  /-- The new value of a stat does not fit an amount. -/
  | statOverflow (entity : EntityId) (stat : String)
  /-- The rule is on already. -/
  | alreadyActive (rule : Switchable)
  /-- The rule is off. -/
  | notActive (rule : Switchable)
  /-- No aura is registered under this number. -/
  | auraNotActive (aura : AuraId)
  /-- The subscription is not on the list it is to be taken from. -/
  | listenerNotBound (surface : EntityId) (event : String) (listener : ListenerId)
  /-- A subscription to one occurrence is released through an event for another. -/
  | bindingMismatch (bound : String) (event : String)
  /-- The occurrence is under way on the same surface. -/
  | reentrantDispatch (surface : EntityId) (event : String)
  /-- As many occurrences are under way as the settings allow. -/
  | depthExceeded (limit : Nat)

def Fault.message : Fault → String
  | .unknownName family name => s!"unknown {family.display} discriminant: {name}"
  | .malformedRecord family reason => s!"malformed {family.display} record: {reason.message}"
  | .invalidParameters family name => s!"invalid parameters for {family.display} {name}"
  | .notReversible name => s!"action {name} is not reversible"
  | .unknownEntity entity => s!"entity not found: {entity.display}"
  | .notAPlayer entity => s!"entity is not a player: {entity.display}"
  | .statOverflow entity stat => s!"{stat} on {entity.display} out of range"
  | .alreadyActive rule => s!"{rule.display} is already active"
  | .notActive rule => s!"{rule.display} is not active"
  | .auraNotActive aura => s!"aura {aura.raw} is not active"
  | .listenerNotBound surface event listener =>
    s!"listener {listener.raw} is not bound to {event} on {surface.display}"
  | .bindingMismatch bound event => s!"binding for {bound} cannot be released by event {event}"
  | .reentrantDispatch surface event =>
    s!"{event} on {surface.display} fired while it is already being handled"
  | .depthExceeded limit => s!"dispatch depth limit of {limit} exceeded"

end CardEffects
