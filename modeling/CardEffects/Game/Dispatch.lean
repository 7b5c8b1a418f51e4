import CardEffects.Game.Program

/-!
# Firing occurrences

An occurrence that is fired on a surface is answered by the subscriptions to it, and their answers
may fire further occurrences. `fireWithin` is fired with the number of occurrences that may still
come under way; it hands one less to the occurrences fired from within. No other part of the game
recurs, so every operation comes to an end.
-/

namespace CardEffects

namespace Game

variable {σ : Type}

/-- Damage a hero or a minion, then fire that it was damaged, first on itself and then on the hero
of its controller. -/
def dealDamage (fire : Firing σ) (source : Option EntityId) (target : EntityId)
    (amount : Amount) : GameM σ Unit := do
  let _ ← onBoard (Board.lowerStat target Stat.health amount)
  let args : Payload := { focus := some target, other := source, amount := some amount }
  fire target Occurrence.damaged args
  match (← get).board.controller? target with
  | some player => fire player.hero Occurrence.characterDamaged args
  | none => return

def act (fire : Firing σ) (action : Action) (target : EntityId) : GameM σ Unit :=
  match action with
  | .change change => onBoard (change.make target)
  | .damage amount => dealDamage fire none target amount
  | .heal amount => onBoard (Board.heal target amount)

/-- Summon a minion, then fire on the hero of its player that it was summoned. -/
def summon (fire : Firing σ) (player : PlayerId) (place : Option Nat) (name : String)
    (attack health : Amount) : GameM σ EntityId := do
  let id ← onBoard (Board.placeMinion player place name attack health)
  fire player.hero Occurrence.minionSummoned { focus := some id }
  return id

/-- Fire that the turn ends, pass it to the next player, and fire that the next turn starts. -/
def endTurn (fire : Firing σ) : GameM σ Unit := do
  let ending := (← get).board.activePlayer.hero
  fire ending Occurrence.turnEnded { focus := some ending }
  modify fun game =>
    { game with board := { game.board with
        activePlayer := game.board.activePlayer.next game.board.playerCount
        turn := game.board.turn + 1 } }
  let starting := (← get).board.activePlayer.hero
  fire starting Occurrence.turnStarted { focus := some starting }

def perform (fire : Firing σ) : (operation : Operation) → GameM σ operation.Reply
  | .summon player place name attack health => summon fire player place name attack health
  | .removeMinion minion => onBoard (Board.removeMinion minion)
  | .raiseStat entity key amount => onBoard (Board.raiseStat entity key amount)
  | .lowerStat entity key amount => onBoard (Board.lowerStat entity key amount)
  | .setStat entity key value => onBoard (Board.setStat entity key value)
  | .dealDamage source target amount => dealDamage fire source target amount
  | .endTurn => endTurn fire
  | .fire surface event args => fire surface event args
  | .unsubscribe surface event listener => onBoard (Board.unsubscribe surface event listener)
  | .release event binding => onBoard (event.unsubscribe binding)
  | .act action target => act fire action target
  | .undo change target => onBoard (change.undo target)
  | .switchOnEffect effect owner => onBoard (effect.switchOn owner)
  | .switchOffEffect effect => onBoard effect.switchOff
  | .attachEffect owner effect => onBoard (Board.attachEffect owner effect)
  | .detachEffects owner => onBoard (Board.detachEffects owner)
  | .switchOnAura aura slot => onBoard (aura.switchOn slot)
  | .switchOffAura aura => onBoard aura.switchOff
  | .addAura holder owner aura => onBoard (Board.addAura holder owner aura)
  | .removeAura aura => onBoard (Board.removeAura aura)
  | .refreshAuras => onBoard Board.refreshAuras

/-- Keep a program for a subscription. -/
def keepScript (listener : ListenerId) (body : Payload → Program σ) : GameM σ Unit :=
  modify fun game => { game with scripts := Table.insert game.scripts listener body }

/-- Subscribe a program to an occurrence on a surface. -/
def subscribe (surface : EntityId) (event : String) (body : Payload → Program σ) :
    GameM σ ListenerId := do
  let listener ← onBoard (Board.subscribe surface event { gate := none, handler := .script })
  keepScript listener body
  return listener

/-- Subscribe a program to an event on behalf of a target. -/
def subscribeEvent (event : Event) (target : EntityId) (body : Payload → Program σ) :
    GameM σ Binding := do
  let binding ← onBoard (event.subscribe target .script)
  keepScript binding.listener body
  return binding

def run (fire : Firing σ) : Program σ → GameM σ Unit
  | .finish result => settle result
  | .look next => do run fire (next (← get).board)
  | .note update next => do
    modify fun game => { game with host := update game.host }
    run fire (next (← get).host)
  | .perform operation next => do run fire (next (← attempt (perform fire operation)))
  | .subscribe surface event body next => do
    run fire (next (← attempt (subscribe surface event body)))
  | .subscribeEvent event target body next => do
    run fire (next (← attempt (subscribeEvent event target body)))

/-- Let the ending of an aura do its work. It works once. -/
def endAura (listener : ListenerId) (aura : AuraId) : BoardM Unit := do
  if listener ∈ (← get).spent then
    return
  modify fun board => { board with spent := listener :: board.spent }
  Board.removeAura aura

/-- Do what a subscription is for. -/
def handle (fire : Firing σ) (listener : ListenerId) (args : Payload) : Handler → GameM σ Unit
  | .trigger owner action targeting => do
    match targeting.resolve (← get).board owner args.focus args.other with
    | some target => act fire action target
    | none => return
  | .endAura aura => onBoard (endAura listener aura)
  | .script => do
    match Table.get? (← get).scripts listener with
    | some body => run fire (body args)
    | none => return

/-- Call a subscription. If its condition does not hold nothing happens. -/
def call (fire : Firing σ) (id : ListenerId) (listener : Listener) (args : Payload) :
    GameM σ Unit := do
  match listener.gate with
  | some (condition, target) =>
    if condition.holds (← get).board target args then
      handle fire id args listener.handler
  | none => handle fire id args listener.handler

/-- Call the listed subscriptions in order, except those that are no longer in force when their
turn comes. The first fault ends the pass. -/
def callEach (fire : Firing σ) (surface : EntityId) (event : String) (args : Payload) :
    List (ListenerId × Listener) → GameM σ Unit
  | [] => return
  | (id, listener) :: rest => do
    if (← get).board.isBound surface event id then
      call fire id listener args
    callEach fire surface event args rest

/-- Refuse an occurrence that is under way on the same surface. -/
def refuseReentry (surface : EntityId) (event : String) : BoardM Unit := do
  if (surface, event) ∈ (← get).dispatching then
    throw (.reentrantDispatch surface event)

/-- Note that an occurrence comes under way. -/
def enter (surface : EntityId) (event : String) : BoardM Unit :=
  modify fun board => { board with dispatching := (surface, event) :: board.dispatching }

/-- Note that the innermost occurrence is over. -/
def leave : BoardM Unit :=
  modify fun board => { board with dispatching := board.dispatching.tail }

/-- One pass over the subscriptions that are in force when it begins. -/
def pass (fire : Firing σ) (surface : EntityId) (event : String) (args : Payload) :
    GameM σ Unit := do
  let character ← onBoard (Board.character surface)
  match character.listeners.listFor event with
  | [] => return
  | list =>
    onBoard (enter surface event)
    let result ← attempt (callEach fire surface event args list)
    onBoard leave
    settle result

/-- Fire an occurrence when `budget` more occurrences may come under way. -/
def fireWithin : (budget : Nat) → Firing σ
  | 0 => fun surface event _ => do
    onBoard (refuseReentry surface event)
    throw (.depthExceeded (← get).board.settings.maxDispatchDepth)
  | budget + 1 => fun surface event args => do
    onBoard (refuseReentry surface event)
    pass (fireWithin budget) surface event args

/-- How many more occurrences may come under way. -/
def budget (game : Game σ) : Nat :=
  game.board.settings.maxDispatchDepth - game.board.dispatching.length

def fire : Firing σ := fun surface event args => do
  fireWithin (← get).budget surface event args

def execute (program : Program σ) : GameM σ Unit :=
  run fire program

def new (settings : Settings) (host : σ) : Except PlayerCountFault (Game σ) :=
  (Board.new settings).map fun board => { board, host }

end Game

end CardEffects
