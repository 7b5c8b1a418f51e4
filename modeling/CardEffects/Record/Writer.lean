import CardEffects.Record.Basic
import CardEffects.Rule.Aura
import CardEffects.Rule.Effect

/-!
# Writing records

Every part has one record. Whether a rule is on is not recorded.
-/

namespace CardEffects

def Amount.toJson (amount : Amount) : Json :=
  .int amount.val

def Scope.name : Scope → String
  | .minion => "minion"
  | .player => "player"

def Coverage.name : Coverage → String
  | .friendly => "friendly"
  | .enemy => "enemy"
  | .all => "all"

def RemovalPolicy.name : RemovalPolicy → String
  | .snapshot => "snapshot"
  | .recompute => "recompute"

def StatChange.toRecord : StatChange → Json
  | .attack amount => Record.named "change_attack" [("amount", amount.toJson)]
  | .health amount => Record.named "change_health" [("amount", amount.toJson)]
  | .taunt => Record.bare "taunt"

def Action.toRecord : Action → Json
  | .change c => c.toRecord
  | .damage amount => Record.named "damage" [("amount", amount.toJson)]
  | .heal amount => Record.named "heal" [("amount", amount.toJson)]

mutual

def Condition.toRecord : Condition → Json
  | .isSelf => Record.bare "is_self"
  | .isMinion => Record.bare "is_minion"
  | .isHero => Record.bare "is_hero"
  | .focusIsFriendly => Record.bare "focus_is_friendly"
  | .amountAtLeast min => Record.named "amount_at_least" [("min", min.toJson)]
  | .negation inner => Record.named "not" [("condition", inner.toRecord)]
  | .all conditions => Record.named "and" [("conditions", .arr (Condition.toRecords conditions))]
  | .any conditions => Record.named "or" [("conditions", .arr (Condition.toRecords conditions))]

def Condition.toRecords : List Condition → List Json
  | [] => []
  | condition :: conditions => condition.toRecord :: Condition.toRecords conditions

end

def Selector.toRecord : Selector → Json
  | .minion => Record.bare "minion"
  | .notSelf => Record.bare "not_self"
  | .damaged => Record.bare "damaged"
  | .hasTaunt => Record.bare "has_taunt"
  | .hasLowestHealth => Record.bare "has_lowest_health"
  | .attackAtLeast min => Record.named "attack_at_least" [("min", min.toJson)]

def Targeting.toRecord : Targeting → Json
  | .self => Record.bare "self"
  | .focus => Record.bare "focus"
  | .other => Record.bare "other"
  | .focusOrSelf => Record.bare "focus_or_self"
  | .ownerHero => Record.bare "owner_hero"
  | .opponentHero => Record.bare "opponent_hero"
  | .fixed entity => Record.named "fixed" [("entity", .int entity.raw)]

def Event.toRecord (event : Event) : Json :=
  Json.object (
    [(Record.eventTag, .str event.name), ("scope", .str event.scope.name)] ++
    event.condition.toList.map fun condition => ("condition", condition.toRecord))

def Effect.toRecord (effect : Effect) : Json :=
  Json.object [("event", effect.event.toRecord), ("action", effect.action.toRecord),
    ("targeting", effect.targeting.toRecord)]

def MinionAura.toRecord (aura : MinionAura) : Json :=
  Json.object [("action", aura.change.toRecord), ("selector", aura.selector.toRecord),
    ("players", .str aura.players.name), ("removal", .str aura.removal.name)]

def PlayerAura.toRecord (aura : PlayerAura) : Json :=
  Json.object [("action", aura.change.toRecord), ("until", aura.ending.toRecord)]

end CardEffects
