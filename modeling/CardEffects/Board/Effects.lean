import CardEffects.Board.Subscribing

/-!
# Effects in force

An effect is on as long as its subscription is in force. A hero or a minion keeps the effects
that were attached to it until all of them are detached.
-/

namespace CardEffects

namespace Effect

def off (effect : Effect) : Effect :=
  { effect with active := none }

/-- Switch an effect on for an owner. An effect that cannot be switched on stays as it was. -/
def switchOn (effect : Effect) (owner : EntityId) : BoardM Effect := do
  if effect.isActive then
    throw (.alreadyActive .effect)
  let binding ← effect.event.subscribe owner (.trigger owner effect.action effect.targeting)
  return { effect with active := some (owner, binding) }

/-- Release the subscription of an effect. The effect is off from then on, also if its
subscription cannot be released. -/
def switchOff (effect : Effect) : BoardM Unit := do
  match effect.active with
  | some (_, binding) => effect.event.unsubscribe binding
  | none => throw (.notActive .effect)

end Effect

namespace Board

/-- Switch an effect on for an owner and keep it with the owner. -/
def attachEffect (owner : EntityId) (effect : Effect) : BoardM Unit := do
  let _ ← character owner
  let effect ← effect.switchOn owner
  modify (·.modifyCharacter owner fun c => { c with effects := c.effects ++ [effect] })

/-- Switch effects off one after another, up to the first fault. -/
def switchOffEffects : List Effect → BoardM Unit
  | [] => return
  | effect :: effects => do
    effect.switchOff
    switchOffEffects effects

/-- Take all effects from an owner and switch them off. The owner keeps none of them, whether or
not that succeeds. -/
def detachEffects (owner : EntityId) : BoardM Nat := do
  let c ← character owner
  modify (·.modifyCharacter owner fun c => { c with effects := [] })
  switchOffEffects c.effects
  return c.effects.length

end Board

end CardEffects
