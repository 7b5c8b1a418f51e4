import CardEffects.Scenario.Basic

/-!
# Playing scenarios

Commands are programs that hand their answer on to the program that goes on after them. Records
are read before anything else happens, and a record that cannot be read is the command's fault.
-/

namespace CardEffects

namespace Scenario

/-- What goes on after a command with its answer. -/
abbrev Next : Type :=
  Except Fault Answer → Program Bench

def perform (operation : Operation) (answer : operation.Reply → Answer) (next : Next) :
    Program Bench :=
  .perform operation fun result => next (result.map answer)

/-- Answer with what can be read from the board. -/
def observe (answer : Board → Except Fault Answer) (next : Next) : Program Bench :=
  .look fun board => next (answer board)

/-- Change what is kept, and go on. -/
def keep (update : Bench → Bench) (next : Program Bench) : Program Bench :=
  .note update fun _ => next

def log (entry : LogEntry) (next : Program Bench) : Program Bench :=
  keep (fun bench => { bench with log := entry :: bench.log }) next

/-- Go on with a value, or answer with its fault. -/
def after {α : Type} (result : Except Fault α) (next : Next) (use : α → Program Bench) :
    Program Bench :=
  match result with
  | .ok value => use value
  | .error fault => next (.error fault)

/-- Go on with what is kept under a name. -/
def withKept {α : Type} (name : String) (table : Bench → Table String α) (next : Next)
    (use : α → Program Bench) : Program Bench :=
  .note id fun bench =>
    match Table.get? (table bench) name with
    | some value => use value
    | none => next (.ok (.notKept name))

/-- Go on with the effect of a command. -/
def EffectSource.take (source : EffectSource) (registry : Registry) (next : Next)
    (use : Effect → Program Bench) : Program Bench :=
  match source with
  | .record source => after (registry.effect source) next use
  | .built effect => use effect
  | .held name =>
    withKept name (·.effects) next fun effect =>
      keep (fun bench => { bench with effects := Table.erase bench.effects name }) (use effect)

/-- Go on with the aura of a command. -/
def AuraSource.take (source : AuraSource) (registry : Registry) (next : Next)
    (use : Aura → Program Bench) : Program Bench :=
  match source with
  | .minionRecord record => after (registry.minionAura record) next fun aura => use (.minions aura)
  | .playerRecord record => after (registry.playerAura record) next fun aura => use (.player aura)
  | .built aura => use aura
  | .held name =>
    withKept name (·.auras) next fun aura =>
      keep (fun bench => { bench with auras := Table.erase bench.auras name }) (use aura)

def storeEffect (name : String) (effect : Effect) (next : Program Bench) : Program Bench :=
  keep (fun bench => { bench with effects := Table.insert bench.effects name effect }) next

def storeAura (name : String) (aura : Aura) (next : Program Bench) : Program Bench :=
  keep (fun bench => { bench with auras := Table.insert bench.auras name aura }) next

/-- Answer with an aura that is kept, or log how a fault left it. -/
def concludeAura (name : String) (aura : Aura) (fault : Option Fault) (next : Next) :
    Program Bench :=
  storeAura name aura <|
    match fault with
    | none => next (.ok (.aura aura))
    | some fault => log (.left aura) (next (.error fault))

def EntityReport.of (board : Board) (entity : EntityId) : EntityReport :=
  { contains := board.contains entity, controller := board.controller? entity,
    minion := board.minion? entity, effects := board.effectCount entity }

def Command.program (registry : Registry) (command : Command) (next : Next) : Program Bench :=
  match command with
  | .summon player place name attack health =>
    perform (.summon player place name attack health) (fun id => .entity (some id)) next
  | .removeMinion id => perform (.removeMinion id) (.minion id) next
  | .raiseStat entity key amount =>
    perform (.raiseStat entity key amount) (fun value => .amount (some value)) next
  | .lowerStat entity key amount =>
    perform (.lowerStat entity key amount) (fun value => .amount (some value)) next
  | .setStat entity key value => perform (.setStat entity key value) (fun _ => .nothing) next
  | .readStat entity key => observe (fun board => .ok (.amount (board.stat? entity key))) next
  | .dealDamage source target amount =>
    perform (.dealDamage source target amount) (fun _ => .nothing) next
  | .endTurn => perform .endTurn (fun _ => .nothing) next
  | .refreshAuras => perform .refreshAuras (fun _ => .nothing) next
  | .describeEntity entity =>
    observe (fun board => .ok (.report (EntityReport.of board entity))) next
  | .describePlayer player =>
    observe (fun board => .ok (.player (board.players.get? player))) next
  | .summarize => observe (fun board => .ok (.text board.summary)) next
  | .describeBoard => observe (fun board => .ok (.board board)) next
  | .fire surface event args => perform (.fire surface event args) (fun _ => .nothing) next
  | .unsubscribe surface event id =>
    perform (.unsubscribe surface event id) (fun _ => .nothing) next
  | .countListeners surface event =>
    observe (fun board => .ok (.number (board.listenerCount surface event))) next
  | .countAllListeners surface =>
    let count (board : Board) : Except Fault Answer :=
      match board.character? surface with
      | some character => .ok (.number character.listeners.total)
      | none => .error (.unknownEntity surface)
    observe count next
  | .release name record =>
    let other : Except Fault (Option Event) :=
      match record with
      | none => .ok none
      | some record => (registry.event record).map some
    after other next fun other =>
      withKept name (·.bindings) next fun (event, binding) =>
        keep (fun bench => { bench with bindings := Table.erase bench.bindings name }) <|
          perform (.release (other.getD event) binding) (fun _ => .nothing) next
  | .findSurface record target =>
    after (registry.event record) next fun event =>
      observe (fun board => (event.surface board target).map fun id => .entity (some id)) next
  | .act record target =>
    after (registry.action record) next fun action =>
      perform (.act action target) (fun _ => .nothing) next
  | .undo record target =>
    after (registry.change record) next fun change =>
      perform (.undo change target) (fun _ => .nothing) next
  | .select record source candidates =>
    after (registry.selector record) next fun selector =>
      observe (fun board => .ok (.entities (selector.select board source candidates))) next
  | .judge record source candidates =>
    after (registry.selector record) next fun selector =>
      observe (fun board => .ok (.truths (candidates.map (selector.keeps board source)))) next
  | .resolve record owner focus other =>
    after (registry.targeting record) next fun targeting =>
      observe (fun board => .ok (.entity (targeting.resolve board owner focus other))) next
  | .evaluate record target args =>
    after (registry.condition record) next fun condition =>
      observe (fun board => .ok (.truth (condition.holds board target args))) next
  | .listMinions players owner =>
    observe (fun board => (players.minions board owner).map .entities) next
  | .attachEffect owner source =>
    source.take registry next fun effect =>
      perform (.attachEffect owner effect) (fun _ => .nothing) next
  | .detachEffects owner => perform (.detachEffects owner) .number next
  | .keepEffect name source =>
    source.take registry next fun effect => storeEffect name effect (next (.ok .nothing))
  | .switchOnEffect name owner =>
    withKept name (·.effects) next fun effect =>
      .perform (.switchOnEffect effect owner) fun result =>
        after result next fun effect => storeEffect name effect (next (.ok (.effect effect)))
  | .switchOffEffect name =>
    withKept name (·.effects) next fun effect =>
      .perform (.switchOffEffect effect) fun result =>
        storeEffect name effect.off (next (result.map fun _ => .effect effect.off))
  | .addAura holder owner source =>
    source.take registry next fun aura =>
      perform (.addAura holder owner aura) (fun id => .number id.raw) next
  | .removeAura id => perform (.removeAura id) (fun _ => .nothing) next
  | .keepAura name source =>
    source.take registry next fun aura => storeAura name aura (next (.ok .nothing))
  | .switchOnAura name slot =>
    withKept name (·.auras) next fun aura =>
      .perform (.switchOnAura aura slot) fun result =>
        match result with
        | .ok aura => concludeAura name aura none next
        | .error fault => concludeAura name aura (some fault) next
  | .switchOffAura name =>
    withKept name (·.auras) next fun aura =>
      .perform (.switchOffAura aura) fun result =>
        match result with
        | .ok _ => concludeAura name aura.off none next
        | .error fault => concludeAura name aura.off (some fault) next

/-- Subscribe a program. -/
def Occasion.program (registry : Registry) (occasion : Occasion)
    (body : Payload → Program Bench) (next : Next) : Program Bench :=
  match occasion with
  | .occurrence surface name =>
    .subscribe surface name body fun result => next (result.map fun id => .number id.raw)
  | .event record target name =>
    after (registry.event record) next fun event =>
      .subscribeEvent event target body fun result =>
        after result next fun binding =>
          keep (fun bench =>
              { bench with bindings := Table.insert bench.bindings name (event, binding) })
            (next (.ok (.binding binding)))

/-- Go on after a subscribed command, or stop with its fault. -/
def conclude (tag : Json) (index : Nat) (manner : Manner) (rest : Program Bench) : Next
  | .ok answer => log (.answered tag index (.ok answer)) rest
  | .error fault =>
    if manner.tolerant then log (.answered tag index (.error fault)) rest
    else log (.stopped tag index fault) (.finish (.error fault))

/-- Subscribed commands from the one with the given index on. -/
def Script.respond (registry : Registry) : Script → (tag : Json) → Payload → Nat → Program Bench
  | .done, _, _, _ => .finish (.ok ())
  | .step command manner rest, tag, args, index =>
    (if manner.passing then command.passing args else command).program registry <|
      conclude tag index manner (rest.respond registry tag args (index + 1))
  | .listen occasion tag' body manner rest, tag, args, index =>
    let called (args' : Payload) : Program Bench :=
      log (.called tag' args') (body.respond registry tag' args' 0)
    occasion.program registry called <|
      conclude tag index manner (rest.respond registry tag args (index + 1))

/-- Report on a command of the scenario, and go on. -/
def report (rest : Program Bench) : Next := fun answer =>
  .look fun board =>
    let filed (bench : Bench) : Bench :=
      { bench with
        log := []
        reports := { answer, log := bench.log.reverse, board } :: bench.reports }
    keep filed rest

/-- The commands of a scenario, none of which stops the others. -/
def Script.program (registry : Registry) : Script → Program Bench
  | .done => .finish (.ok ())
  | .step command _ rest => command.program registry (report (rest.program registry))
  | .listen occasion tag body _ rest =>
    let called (args : Payload) : Program Bench :=
      log (.called tag args) (body.respond registry tag args 0)
    occasion.program registry called (report (rest.program registry))

def play (settings : Settings) (script : Script) :
    Except PlayerCountFault (List Report × Board) := do
  let game ← Game.new settings ({ } : Bench)
  match Game.execute (script.program Registry.extended) game with
  | .ok _ game => return (game.host.reports.reverse, game.board)
  | .error _ game => return (game.host.reports.reverse, game.board)

end Scenario

end CardEffects
