import CardEffects.Proofs.Transcripts

/-!
# Small steps

A game as a machine. A configuration says what the game is doing, what it has put off until that is
done, and how it stands; a step does one thing to the board, begins or ends a pass, or goes on to
the next task. Nothing counts the steps or the occurrences that may still come under way: an
occurrence is refused on what the board says, and each step depends on the configuration alone.
-/

namespace CardEffects.Proofs

/-- What a game is doing. -/
inductive Task (σ : Type) : Type where
  | fire (surface : EntityId) (event : String) (args : Payload)
  | damage (source : Option EntityId) (target : EntityId) (amount : Amount)
  | act (action : Action) (target : EntityId)
  | call (id : ListenerId) (listener : Listener) (args : Payload)
  | run (program : Program σ)
  /-- Something has been done, and this is its result. -/
  | done (result : Except Fault Unit)

/-- What a game has put off until its task is done. -/
inductive TaskFrame (σ : Type) : Type where
  /-- Go on with a program. -/
  | resume (next : Except Fault Unit → Program σ)
  /-- Fire on the hero of its controller that a target was damaged. -/
  | tell (target : EntityId) (args : Payload)
  /-- Pass the turn to the next player. -/
  | passTurn
  /-- Call the rest of the subscriptions that were in force when a pass began. -/
  | pass (surface : EntityId) (event : String) (args : Payload)
      (rest : List (ListenerId × Listener))

/-- A game at work. What was put off last stands first. -/
structure Config (σ : Type) where
  task : Task σ
  frames : List (TaskFrame σ)
  game : Game σ

variable {σ α : Type}

/-- Go on after something that is done at one go. -/
def Config.after (outcome : EStateM.Result Fault (Game σ) α) (next : Except Fault α → Task σ)
    (frames : List (TaskFrame σ)) : Config σ :=
  match outcome with
  | .ok a game => ⟨next (.ok a), frames, game⟩
  | .error fault game => ⟨next (.error fault), frames, game⟩

/-- A firing for operations that fire nothing. -/
def still : Firing σ := fun _ _ _ => pure ()

def damageReport (source : Option EntityId) (target : EntityId) (amount : Amount) : Payload :=
  { focus := some target, other := source, amount := some amount }

/-- Begin an operation of a program. Those that fire nothing are done at one go. -/
def startOperation (game : Game σ) (frames : List (TaskFrame σ)) :
    (operation : Operation) → (Except Fault operation.Reply → Program σ) → Config σ
  | .summon player place name attack health, next =>
    match onBoard (Board.placeMinion player place name attack health) game with
    | .ok id game =>
      ⟨.fire player.hero Occurrence.minionSummoned { focus := some id },
        .resume (fun result => next (result.map fun _ => id)) :: frames, game⟩
    | .error fault game => ⟨.run (next (.error fault)), frames, game⟩
  | .dealDamage source target amount, next =>
    ⟨.damage source target amount, .resume next :: frames, game⟩
  | .endTurn, next =>
    ⟨.fire game.board.activePlayer.hero Occurrence.turnEnded
        { focus := some game.board.activePlayer.hero },
      .passTurn :: .resume next :: frames, game⟩
  | .fire surface event args, next => ⟨.fire surface event args, .resume next :: frames, game⟩
  | .act action target, next => ⟨.act action target, .resume next :: frames, game⟩
  | operation, next =>
    .after (Game.perform still operation game) (fun result => .run (next result)) frames

/-- Fire an occurrence: refuse it, or begin a pass over the subscriptions in force. -/
def startFiring (game : Game σ) (frames : List (TaskFrame σ)) (surface : EntityId) (event : String)
    (args : Payload) : Config σ :=
  match refusal? game.board surface event with
  | some fault => ⟨.done (.error fault), frames, game⟩
  | none =>
    match listenersAt game.board surface event with
    | [] => ⟨.done (.ok ()), frames, game⟩
    | list => ⟨.done (.ok ()), .pass surface event args list :: frames,
        { game with board := entered game.board surface event }⟩

def startHandling (game : Game σ) (frames : List (TaskFrame σ)) (id : ListenerId) (args : Payload) :
    Handler → Config σ
  | .trigger owner action targeting =>
    match targeting.resolve game.board owner args.focus args.other with
    | some target => ⟨.act action target, frames, game⟩
    | none => ⟨.done (.ok ()), frames, game⟩
  | .endAura aura => .after (onBoard (Game.endAura id aura) game) .done frames
  | .script =>
    match Table.get? game.scripts id with
    | some body => ⟨.run (body args), frames, game⟩
    | none => ⟨.done (.ok ()), frames, game⟩

/-- Call a subscription, if its condition holds. -/
def startCall (game : Game σ) (frames : List (TaskFrame σ)) (id : ListenerId) (listener : Listener)
    (args : Payload) : Config σ :=
  if listener.gate.all fun gate => gate.1.holds game.board gate.2 args then
    startHandling game frames id args listener.handler
  else ⟨.done (.ok ()), frames, game⟩

/-- Do the damage, and put off what is fired on the hero. -/
def startDamage (game : Game σ) (frames : List (TaskFrame σ)) (source : Option EntityId)
    (target : EntityId) (amount : Amount) : Config σ :=
  match onBoard (Board.lowerStat target Stat.health amount) game with
  | .ok _ game =>
    ⟨.fire target Occurrence.damaged (damageReport source target amount),
      .tell target (damageReport source target amount) :: frames, game⟩
  | .error fault game => ⟨.done (.error fault), frames, game⟩

def startAction (game : Game σ) (frames : List (TaskFrame σ)) (target : EntityId) :
    Action → Config σ
  | .change change => .after (onBoard (change.make target) game) .done frames
  | .damage amount => ⟨.damage none target amount, frames, game⟩
  | .heal amount => .after (onBoard (Board.heal target amount) game) .done frames

/-- Do the first thing that a program says. -/
def startProgram (game : Game σ) (frames : List (TaskFrame σ)) : Program σ → Config σ
  | .finish result => ⟨.done result, frames, game⟩
  | .look next => ⟨.run (next game.board), frames, game⟩
  | .note update next =>
    ⟨.run (next (update game.host)), frames, { game with host := update game.host }⟩
  | .perform operation next => startOperation game frames operation next
  | .subscribe surface event body next =>
    .after (Game.subscribe surface event body game) (fun result => .run (next result)) frames
  | .subscribeEvent event target body next =>
    .after (Game.subscribeEvent event target body game) (fun result => .run (next result)) frames

/-- A game in which the turn has been passed to the next player. -/
def turnPassed (game : Game σ) : Game σ :=
  { game with board := { game.board with
      activePlayer := game.board.activePlayer.next game.board.playerCount
      turn := game.board.turn + 1 } }

/-- A game in which the innermost occurrence is over. -/
def concluded (game : Game σ) : Game σ :=
  { game with board := { game.board with dispatching := game.board.dispatching.tail } }

/-- Call the next of the listed subscriptions, unless it is no longer in force, or end the pass. -/
def callNext (game : Game σ) (frames : List (TaskFrame σ)) (surface : EntityId) (event : String)
    (args : Payload) : List (ListenerId × Listener) → Config σ
  | [] => ⟨.done (.ok ()), frames, concluded game⟩
  | (id, listener) :: rest =>
    if game.board.isBound surface event id then
      ⟨.call id listener args, .pass surface event args rest :: frames, game⟩
    else ⟨.done (.ok ()), .pass surface event args rest :: frames, game⟩

/-- Take up what was put off last. A fault ends what waited for something to be done. -/
def takeUp (game : Game σ) (frames : List (TaskFrame σ)) :
    TaskFrame σ → Except Fault Unit → Config σ
  | .resume next, result => ⟨.run (next result), frames, game⟩
  | .tell target args, .ok _ =>
    match game.board.controller? target with
    | some player => ⟨.fire player.hero Occurrence.characterDamaged args, frames, game⟩
    | none => ⟨.done (.ok ()), frames, game⟩
  | .tell _ _, .error fault => ⟨.done (.error fault), frames, game⟩
  | .passTurn, .ok _ =>
    ⟨.fire (turnPassed game).board.activePlayer.hero Occurrence.turnStarted
        { focus := some (turnPassed game).board.activePlayer.hero },
      frames, turnPassed game⟩
  | .passTurn, .error fault => ⟨.done (.error fault), frames, game⟩
  | .pass surface event args rest, .ok _ => callNext game frames surface event args rest
  | .pass _ _ _ _, .error fault => ⟨.done (.error fault), frames, concluded game⟩

/-- One step of a game. There is none when everything is done. -/
def step : Config σ → Option (Config σ)
  | ⟨.fire surface event args, frames, game⟩ => some (startFiring game frames surface event args)
  | ⟨.damage source target amount, frames, game⟩ =>
    some (startDamage game frames source target amount)
  | ⟨.act action target, frames, game⟩ => some (startAction game frames target action)
  | ⟨.call id listener args, frames, game⟩ => some (startCall game frames id listener args)
  | ⟨.run program, frames, game⟩ => some (startProgram game frames program)
  | ⟨.done result, frame :: frames, game⟩ => some (takeUp game frames frame result)
  | ⟨.done _, [], _⟩ => none

/-- A step, after which the programs that are kept for the subscriptions, and their own state, have
been exchanged for any others. A program may subscribe itself in this way, or programs each other in
a circle, although none is a part of itself. -/
def Stirs (c c' : Config σ) : Prop :=
  ∃ game, step c = some ⟨c'.task, c'.frames, game⟩ ∧ c'.game.board = game.board

lemma stirs_of_step {c c' : Config σ} (h : step c = some c') : Stirs c c' :=
  ⟨c'.game, h, rfl⟩

/-- One configuration comes from another by steps. -/
def Reaches : Config σ → Config σ → Prop :=
  Relation.ReflTransGen fun c c' => step c = some c'

/-- One configuration comes from another by steps between which programs are exchanged. -/
def Stirred : Config σ → Config σ → Prop :=
  Relation.ReflTransGen Stirs

lemma Reaches.stirred {c c' : Config σ} (h : Reaches c c') : Stirred c c' :=
  Relation.ReflTransGen.mono (fun _ _ => stirs_of_step) _ _ h

lemma step_eq_none {c : Config σ} (h : step c = none) :
    ∃ result game, c = ⟨.done result, [], game⟩ := by
  obtain ⟨task, frames, game⟩ := c
  cases task with
  | done result =>
    cases frames with
    | nil => exact ⟨result, game, rfl⟩
    | cons frame frames => cases h
  | _ => cases h

end CardEffects.Proofs
