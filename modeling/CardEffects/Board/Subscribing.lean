import CardEffects.Board.Judgement

/-!
# Subscribing

Subscriptions on the surfaces of heroes and minions, made for an occurrence or for an event. The
numbers of subscriptions are never used twice, and none is used up by a subscription that fails.
-/

namespace CardEffects

namespace Board

def subscribe (surface : EntityId) (event : String) (listener : Listener) : BoardM ListenerId := do
  let _ ← character surface
  let id : ListenerId := ⟨(← get).nextListener⟩
  modify fun board =>
    { board.modifyCharacter surface fun c =>
        { c with listeners := c.listeners.add event id listener } with
      nextListener := board.nextListener + 1 }
  return id

/-- Release one subscription to an occurrence on a surface. -/
def unsubscribe (surface : EntityId) (event : String) (id : ListenerId) : BoardM Unit := do
  let c ← character surface
  match c.listeners.remove? event id with
  | some listeners => modify (·.modifyCharacter surface fun c => { c with listeners })
  | none => throw (.listenerNotBound surface event id)

end Board

namespace Event

/-- Subscribe to an event on behalf of a target. The condition of the event gates the
subscription. -/
def subscribe (event : Event) (target : EntityId) (handler : Handler) : BoardM Binding := do
  let surface ← settle (event.surface (← get) target)
  let gate := event.condition.map fun condition => (condition, target)
  let listener ← Board.subscribe surface event.name { gate, handler }
  return { target, surface, event := event.name, listener }

/-- Release a subscription through its event. -/
def unsubscribe (event : Event) (binding : Binding) : BoardM Unit := do
  if binding.event ≠ event.name then
    throw (.bindingMismatch binding.event event.name)
  Board.unsubscribe binding.surface binding.event binding.listener

end Event

end CardEffects
