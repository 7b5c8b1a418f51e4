import CardEffects.RuleName
import CardEffects.Record.Basic
import CardEffects.Rule.Aura
import CardEffects.Rule.Effect

/-!
# Registries

A registry says which names stand for which parts. A name is registered under its key, so that
spellings that differ in case and underscores are one name, and no key is registered twice.

Of all the forms in which a part is read, only the conditions `negation`, `all` and `any` read
records inside their parameters, and for these they need the registry again. The makers of `built`
parts are given the parameters and no registry.
-/

namespace CardEffects

/-- What becomes of parameters that a part without parameters is given. -/
inductive Leftover where
  | refused
  | ignored
  deriving DecidableEq

/-- How a stat change is read. -/
inductive ChangeForm where
  /-- A change without parameters. -/
  | constant (change : StatChange) (leftover : Leftover)
  /-- A change of attack by the parameter `amount`. -/
  | attack
  /-- A change of health by the parameter `amount`. -/
  | health
  /-- A change made from the parameters alone, without the registry. -/
  | built (build : Fields → Except Fault StatChange)

/-- How an action is read. -/
inductive ActionForm where
  /-- A stat change, which may be taken back only if it is registered so. -/
  | change (form : ChangeForm) (reversible : Bool)
  /-- Damage of the parameter `amount`. -/
  | damage
  /-- Healing of the parameter `amount`. -/
  | heal
  /-- An action made from the parameters alone, without the registry. It may not be taken back. -/
  | built (build : Fields → Except Fault Action)

/-- How a condition is read. Only here do forms recur: `negation`, `all` and `any`. -/
inductive ConditionForm where
  /-- A condition without parameters. -/
  | constant (condition : Condition) (leftover : Leftover)
  /-- A bound on the amount, given by the parameter `min`. -/
  | amountAtLeast
  /-- The negation of the parameter `condition`, which is read with the same registry. -/
  | negation
  /-- The conjunction of the parameter `conditions`, which are read with the same registry. -/
  | all
  /-- The disjunction of the parameter `conditions`, which are read with the same registry. -/
  | any
  /-- A condition made from the parameters alone, without the registry. -/
  | built (build : Fields → Except Fault Condition)

/-- How a selector is read. -/
inductive SelectorForm where
  /-- A selector without parameters. -/
  | constant (selector : Selector) (leftover : Leftover)
  /-- A bound on attack, given by the parameter `min`. -/
  | attackAtLeast
  /-- A selector made from the parameters alone, without the registry. -/
  | built (build : Fields → Except Fault Selector)

/-- How a targeting is read. -/
inductive TargetingForm where
  /-- A targeting without parameters. -/
  | constant (targeting : Targeting) (leftover : Leftover)
  /-- The entity given by the parameter `entity`. -/
  | fixed
  /-- A targeting made from the parameters alone, without the registry. -/
  | built (build : Fields → Except Fault Targeting)

/-- A registered part, with its name as it was given. -/
structure Registered (form : Type) where
  name : String
  form : form

/-- The parts of every family, by key. -/
structure Registry where
  actions : Table String (Registered ActionForm) := []
  conditions : Table String (Registered ConditionForm) := []
  selectors : Table String (Registered SelectorForm) := []
  targetings : Table String (Registered TargetingForm) := []
  /-- Occurrences, with the scope of events that do not give one. -/
  events : Table String (Registered Scope) := []

/-- A part that can be registered. -/
inductive Part where
  | action (form : ActionForm)
  | condition (form : ConditionForm)
  | selector (form : SelectorForm)
  | targeting (form : TargetingForm)
  | event (scope : Scope)

def Part.family : Part → Family
  | .action _ => .action
  | .condition _ => .condition
  | .selector _ => .selector
  | .targeting _ => .targeting
  | .event _ => .event

/-- A name cannot be registered because its key is taken. -/
structure NameTaken where
  family : Family
  name : String
  deriving DecidableEq

def NameTaken.message (taken : NameTaken) : String :=
  s!"{taken.family.display} {taken.name} already registered (as {RuleName.key taken.name})"

namespace Registry

/-- Whether a name stands for a part of the family. Effects and auras have no names. -/
def isRegistered (registry : Registry) (family : Family) (name : String) : Bool :=
  match family with
  | .action => Table.contains registry.actions (RuleName.key name)
  | .condition => Table.contains registry.conditions (RuleName.key name)
  | .selector => Table.contains registry.selectors (RuleName.key name)
  | .targeting => Table.contains registry.targetings (RuleName.key name)
  | .event => Table.contains registry.events (RuleName.key name)
  | .effect => false
  | .aura => false

/-- Let a name stand for a part, whatever it stood for. -/
def set (registry : Registry) (name : String) (part : Part) : Registry :=
  let key := RuleName.key name
  match part with
  | .action form => { registry with actions := Table.insert registry.actions key ⟨name, form⟩ }
  | .condition form =>
    { registry with conditions := Table.insert registry.conditions key ⟨name, form⟩ }
  | .selector form =>
    { registry with selectors := Table.insert registry.selectors key ⟨name, form⟩ }
  | .targeting form =>
    { registry with targetings := Table.insert registry.targetings key ⟨name, form⟩ }
  | .event scope => { registry with events := Table.insert registry.events key ⟨name, scope⟩ }

/-- Register a part under a name that is free. -/
def register (registry : Registry) (name : String) (part : Part) : Except NameTaken Registry :=
  if registry.isRegistered part.family name then .error ⟨part.family, name⟩
  else .ok (registry.set name part)

def standardParts : List (String × Part) :=
  [("change_attack", .action (.change .attack true)),
    ("change_health", .action (.change .health true)),
    ("taunt", .action (.change (.constant .taunt .refused) true)),
    ("damage", .action .damage),
    ("heal", .action .heal),
    ("is_self", .condition (.constant .isSelf .refused)),
    ("is_minion", .condition (.constant .isMinion .refused)),
    ("is_hero", .condition (.constant .isHero .refused)),
    ("focus_is_friendly", .condition (.constant .focusIsFriendly .refused)),
    ("amount_at_least", .condition .amountAtLeast),
    ("not", .condition .negation),
    ("and", .condition .all),
    ("or", .condition .any),
    ("minion", .selector (.constant .minion .refused)),
    ("not_self", .selector (.constant .notSelf .refused)),
    ("damaged", .selector (.constant .damaged .refused)),
    ("has_taunt", .selector (.constant .hasTaunt .refused)),
    ("has_lowest_health", .selector (.constant .hasLowestHealth .refused)),
    ("self", .targeting (.constant .self .refused)),
    ("focus", .targeting (.constant .focus .refused)),
    ("other", .targeting (.constant .other .refused)),
    ("focus_or_self", .targeting (.constant .focusOrSelf .refused)),
    ("owner_hero", .targeting (.constant .ownerHero .refused)),
    ("opponent_hero", .targeting (.constant .opponentHero .refused)),
    (Occurrence.damaged, .event .minion),
    (Occurrence.characterDamaged, .event .player),
    (Occurrence.turnEnded, .event .player),
    (Occurrence.turnStarted, .event .player),
    (Occurrence.minionSummoned, .event .player)]

def ofParts (parts : List (String × Part)) : Registry :=
  parts.foldl (fun registry part => registry.set part.1 part.2) { }

def standard : Registry :=
  ofParts standardParts

/-- The registry of the built-in parts and of the two that are bound to numbers: minions with at
least some attack, and one fixed entity. -/
def extended : Registry :=
  ofParts (standardParts ++
    [("attack_at_least", .selector .attackAtLeast), ("fixed", .targeting .fixed)])

/-- How many parts of each family are registered, as a text. -/
def summary (registry : Registry) : String :=
  s!"Registry \x7b actions: {registry.actions.length}, " ++
  s!"conditions: {registry.conditions.length}, " ++
  s!"selectors: {registry.selectors.length}, targetings: {registry.targetings.length}, " ++
  s!"events: {registry.events.length} \x7d"

end Registry

end CardEffects
