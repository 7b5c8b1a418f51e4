import CardEffects.Amount

/-!
# Conditions

A condition is a yes-or-no question about an occurrence, asked on behalf of one entity.
-/

namespace CardEffects

/-- A question about an occurrence. -/
inductive Condition where
  /-- The occurrence is about the entity itself. -/
  | isSelf
  /-- The occurrence is about a minion in play. -/
  | isMinion
  /-- The occurrence is about a hero. -/
  | isHero
  /-- One player controls the entity and what the occurrence is about. -/
  | focusIsFriendly
  /-- The occurrence carries at least this amount. -/
  | amountAtLeast (min : Amount)
  /-- The inner condition does not hold. -/
  | negation (inner : Condition)
  /-- Every one of the conditions holds. -/
  | all (conditions : List Condition)
  /-- One of the conditions holds. -/
  | any (conditions : List Condition)

end CardEffects
