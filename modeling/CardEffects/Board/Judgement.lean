import CardEffects.Board.Basic

/-!
# Judgements

What conditions, selectors, targetings and coverages say about a board. None of them changes it.
-/

namespace CardEffects

mutual

/-- Whether a condition holds for a target when an occurrence reports `args`. -/
def Condition.holds (board : Board) (target : EntityId) (args : Payload) : Condition → Bool
  | .isSelf => args.focus = some target
  | .isMinion => args.focus.any board.isMinion
  | .isHero => args.focus.any fun focus => (board.seat? focus).isSome
  | .focusIsFriendly =>
    match args.focus.bind board.controller?, board.controller? target with
    | some a, some b => a = b
    | _, _ => false
  | .amountAtLeast min => args.amount.any fun amount => min.val ≤ amount.val
  | .negation inner => !inner.holds board target args
  | .all conditions => Condition.allHold board target args conditions
  | .any conditions => Condition.anyHolds board target args conditions

def Condition.allHold (board : Board) (target : EntityId) (args : Payload) :
    List Condition → Bool
  | [] => true
  | condition :: conditions =>
    condition.holds board target args && Condition.allHold board target args conditions

def Condition.anyHolds (board : Board) (target : EntityId) (args : Payload) :
    List Condition → Bool
  | [] => false
  | condition :: conditions =>
    condition.holds board target args || Condition.anyHolds board target args conditions

end

namespace Selector

/-- Whether a candidate that is shown alone is kept. -/
def keeps (selector : Selector) (board : Board) (source candidate : EntityId) : Bool :=
  match selector with
  | .minion => board.isMinion candidate
  | .notSelf => candidate ≠ source && board.isMinion candidate
  | .damaged => (board.minion? candidate).any (·.body.isDamaged)
  | .hasTaunt => (board.minion? candidate).any (·.body.hasTaunt)
  | .hasLowestHealth => board.isMinion candidate
  | .attackAtLeast min =>
    (board.minion? candidate).any fun minion => min.val ≤ (minion.body.stat Stat.attack).val

def healths (board : Board) (candidates : List EntityId) : List Int :=
  candidates.filterMap fun candidate =>
    (board.minion? candidate).map fun minion => (minion.body.stat Stat.health).val

/-- The candidates that are kept, in the order they are shown. -/
def select (selector : Selector) (board : Board) (source : EntityId)
    (candidates : List EntityId) : List EntityId :=
  match selector with
  | .hasLowestHealth =>
    match (healths board candidates).min? with
    | none => []
    | some lowest =>
      candidates.filter fun candidate =>
        (board.minion? candidate).any fun minion => (minion.body.stat Stat.health).val = lowest
  | selector => candidates.filter (selector.keeps board source)

end Selector

namespace Targeting

/-- An entity, if it is in play. -/
def inPlay (board : Board) (entity : Option EntityId) : Option EntityId :=
  entity.filter board.contains

/-- The target of an effect, if there is one. -/
def resolve (targeting : Targeting) (board : Board) (owner : EntityId)
    (focus other : Option EntityId) : Option EntityId :=
  match targeting with
  | .self => inPlay board (some owner)
  | .focus => inPlay board focus
  | .other => inPlay board other
  | .focusOrSelf => inPlay board focus <|> inPlay board (some owner)
  | .ownerHero => (board.controller? owner).map (·.hero)
  | .opponentHero =>
    (board.controller? owner).map fun player => (player.next board.playerCount).hero
  | .fixed entity => some entity

end Targeting

namespace Coverage

/-- Whether a coverage reaches a player, seen from the controller of an aura's owner. -/
def covers (coverage : Coverage) (controller player : PlayerId) : Bool :=
  match coverage with
  | .friendly => player = controller
  | .enemy => player ≠ controller
  | .all => true

/-- The covered minions, player by player in seat order. -/
def minions (coverage : Coverage) (board : Board) (owner : EntityId) :
    Except Fault (List EntityId) :=
  match board.controller? owner with
  | none => .error (.unknownEntity owner)
  | some controller =>
    .ok (((PlayerId.all board.playerCount).filter (coverage.covers controller)).flatMap
      board.minionsOf)

end Coverage

/-- The surface on which to listen for an event on behalf of a target. -/
def Event.surface (event : Event) (board : Board) (target : EntityId) :
    Except Fault EntityId :=
  match event.scope with
  | .minion => if board.contains target then .ok target else .error (.unknownEntity target)
  | .player =>
    match board.controller? target with
    | some player => .ok player.hero
    | none => .error (.unknownEntity target)

/-- The minions that a minion aura picks for an owner. -/
def MinionAura.matched (aura : MinionAura) (board : Board) (owner : EntityId) :
    Except Fault (List EntityId) :=
  (aura.players.minions board owner).map (aura.selector.select board owner)

end CardEffects
