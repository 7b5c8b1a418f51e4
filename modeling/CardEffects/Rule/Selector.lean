import CardEffects.Amount
import CardEffects.Identity

/-!
# Selectors and targetings

A selector keeps some of the entities it is shown. A targeting points at no more than one.
-/

namespace CardEffects

/-- A choice among candidates on behalf of a source. -/
inductive Selector where
  /-- Every minion. -/
  | minion
  /-- Every minion but the source. -/
  | notSelf
  /-- The minions with less health than their greatest. -/
  | damaged
  /-- The minions with taunt. -/
  | hasTaunt
  /-- The minions with the lowest health among the candidates. -/
  | hasLowestHealth
  /-- The minions with at least this attack. -/
  | attackAtLeast (min : Amount)
  deriving DecidableEq

/-- Whether the choice depends on the candidates as a whole. -/
def Selector.isAggregate : Selector → Bool
  | .hasLowestHealth => true
  | _ => false

/-- Where an effect points when its event occurs. -/
inductive Targeting where
  /-- The owner of the effect. -/
  | self
  /-- What the occurrence is about. -/
  | focus
  /-- The second participant. -/
  | other
  /-- What the occurrence is about, or else the owner. -/
  | focusOrSelf
  /-- The hero of the owner's controller. -/
  | ownerHero
  /-- The hero seated after the owner's controller. -/
  | opponentHero
  /-- One entity, in play or not. -/
  | fixed (entity : EntityId)
  deriving DecidableEq

end CardEffects
