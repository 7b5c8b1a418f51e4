import CardEffects.Settings
import CardEffects.Subscriptions
import CardEffects.Fault
import CardEffects.Rule.Aura
import CardEffects.Rule.Effect

/-!
# Boards

The state of a game: the heroes, the minions in play, their stats, subscriptions and effects, and
the auras that are registered. A subscription says what to do as plain data, so a board holds no
functions and can be compared, copied and inspected.
-/

namespace CardEffects

/-- What a subscription does when its occurrence is fired. -/
inductive Handler where
  /-- Do an action to the target that is found on behalf of an owner. -/
  | trigger (owner : EntityId) (action : Action) (targeting : Targeting)
  /-- Remove an aura, the first time it is called. -/
  | endAura (aura : AuraId)
  /-- Run the program that is kept for the subscription outside the board. -/
  | script
  deriving DecidableEq

/-- A subscription: what it does, and the condition that must hold for an entity, if there is
one. -/
structure Listener where
  gate : Option (Condition × EntityId)
  handler : Handler

/-- What heroes and minions have in common. -/
structure Character where
  /-- The stats that were ever written. -/
  stats : Table String Amount
  listeners : Subscriptions Listener := { }
  /-- The effects that are on for this character. -/
  effects : List Effect := []

namespace Character

/-- A stat, which is zero until it is written. -/
def stat (character : Character) (key : String) : Amount :=
  (Table.get? character.stats key).getD .zero

def withStat (character : Character) (key : String) (value : Amount) : Character :=
  { character with stats := Table.insert character.stats key value }

/-- Whether health is below its greatest value. -/
def isDamaged (character : Character) : Bool :=
  (character.stat Stat.health).val < (character.stat Stat.maxHealth).val

def hasTaunt (character : Character) : Bool :=
  0 < (character.stat Stat.taunt).val

end Character

/-- A minion in play. -/
structure Minion where
  name : String
  controller : PlayerId
  body : Character

/-- A player: the hero, the minions from left to right, and the auras held, oldest first. -/
structure Player where
  hero : Character
  minions : List EntityId := []
  auras : List AuraId := []

/-- A registered aura and where it is registered. -/
structure ActiveAura where
  slot : Slot
  aura : Aura

/-- The state of a game. Its counters have no greatest value, so they are those of a game that
counts in 32 bits (64 for subscriptions) only up to there: each field below says how far. -/
structure Board where
  settings : Settings
  players : PerPlayer Player
  minions : Table EntityId Minion := []
  auras : Table AuraId ActiveAura := []
  activePlayer : PlayerId := ⟨0⟩
  /-- The number of the turn, for games of fewer than `2 ^ 32` turns. -/
  turn : Nat := 1
  /-- The number of the next minion, for games with fewer than `2 ^ 32` heroes and minions over
  their whole course. -/
  nextEntity : Nat
  /-- The number of the next subscription, for games with fewer than `2 ^ 64` of them. -/
  nextListener : Nat := 0
  /-- The number of the next aura, for games that register fewer than `2 ^ 32` auras. -/
  nextAura : Nat := 0
  /-- The occurrences under way with their surfaces, innermost first. -/
  dispatching : List (EntityId × String) := []
  /-- The subscriptions that were to end an aura and have been called. -/
  spent : List ListenerId := []

/-- An operation on a board. A fault leaves the board as it was when the fault arose. -/
abbrev BoardM : Type → Type :=
  EStateM Fault Board

/-- Run an operation to its end or its fault, and go on with whichever it was. -/
def attempt {ε σ α : Type} (operation : EStateM ε σ α) : EStateM ε σ (Except ε α) := fun s =>
  match operation s with
  | .ok a s => .ok (.ok a) s
  | .error e s => .ok (.error e) s

/-- Go on with a result, or stop with its fault. -/
def settle {ε σ α : Type} : Except ε α → EStateM ε σ α
  | .ok a => pure a
  | .error e => throw e

namespace Board

/-- The hero of a player at the start of a game. -/
def newHero (health : Amount) : Character :=
  { stats := [(Stat.health, health), (Stat.maxHealth, health), (Stat.attack, .zero)] }

/-- A board without minions. -/
def new (settings : Settings) : Except PlayerCountFault Board := do
  let players ← PerPlayer.new settings.playerCount fun _ =>
    { hero := newHero settings.heroHealth }
  return { settings, players, nextEntity := EntityId.firstMinion settings.playerCount }

def playerCount (board : Board) : Nat :=
  board.players.count

/-- The player whose hero an entity is. -/
def seat? (board : Board) (entity : EntityId) : Option PlayerId :=
  if entity.raw < board.playerCount then some ⟨entity.raw⟩ else none

/-- A seat at a table of fewer than 256 players fits 8 bits. -/
theorem seat?_eq_asPlayer {board : Board} (h : board.playerCount < 256) (entity : EntityId) :
    board.seat? entity = entity.asPlayer board.playerCount := by
  have hfirst : EntityId.firstMinion board.playerCount = board.playerCount :=
    Nat.mod_eq_of_lt (by omega)
  unfold seat? EntityId.asPlayer EntityId.isPlayer
  rw [hfirst]
  by_cases hseat : entity.raw < board.playerCount
  · have hwrap : PlayerId.wrap entity.raw = ⟨entity.raw⟩ :=
      congrArg PlayerId.mk (Nat.mod_eq_of_lt (by omega))
    simp [hseat, hwrap]
  · simp [hseat]

def minion? (board : Board) (entity : EntityId) : Option Minion :=
  Table.get? board.minions entity

def isMinion (board : Board) (entity : EntityId) : Bool :=
  (board.minion? entity).isSome

/-- Whether an entity is a hero or a minion in play. -/
def contains (board : Board) (entity : EntityId) : Bool :=
  (board.seat? entity).isSome || board.isMinion entity

/-- The player who controls an entity. A hero is controlled by its player. -/
def controller? (board : Board) (entity : EntityId) : Option PlayerId :=
  board.seat? entity <|> (board.minion? entity).map (·.controller)

/-- The minions of a player from left to right. -/
def minionsOf (board : Board) (player : PlayerId) : List EntityId :=
  ((board.players.get? player).map (·.minions)).getD []

/-- The auras that a player holds, oldest first. -/
def aurasOf (board : Board) (player : PlayerId) : List AuraId :=
  ((board.players.get? player).map (·.auras)).getD []

/-- The hero or the minion that an entity is. -/
def character? (board : Board) (entity : EntityId) : Option Character :=
  match board.seat? entity with
  | some player => (board.players.get? player).map (·.hero)
  | none => (board.minion? entity).map (·.body)

def stat? (board : Board) (entity : EntityId) (key : String) : Option Amount :=
  (board.character? entity).map (·.stat key)

/-- Whether a subscription is in force. -/
def isBound (board : Board) (surface : EntityId) (event : String) (listener : ListenerId) :
    Bool :=
  match board.character? surface with
  | some character => character.listeners.has event listener
  | none => false

/-- How many subscriptions there are to an occurrence on a surface. -/
def listenerCount (board : Board) (surface : EntityId) (event : String) : Nat :=
  match board.character? surface with
  | some character => character.listeners.count event
  | none => 0

def effectCount (board : Board) (entity : EntityId) : Nat :=
  match board.character? entity with
  | some character => character.effects.length
  | none => 0

/-- Whether an aura is registered. -/
def isAuraActive (board : Board) (aura : AuraId) : Bool :=
  Table.contains board.auras aura

/-- The registered auras, oldest first. -/
def activeAuras (board : Board) : List AuraId :=
  (Table.keys board.auras).mergeSort (·.raw ≤ ·.raw)

def modifyPlayer (board : Board) (player : PlayerId) (f : Player → Player) : Board :=
  { board with players := board.players.modify player f }

def modifyCharacter (board : Board) (entity : EntityId) (f : Character → Character) : Board :=
  match board.seat? entity with
  | some player => board.modifyPlayer player fun p => { p with hero := f p.hero }
  | none =>
    { board with minions := Table.modify board.minions entity fun m => { m with body := f m.body } }

@[simp] theorem playerCount_modifyCharacter (board : Board) (entity : EntityId)
    (f : Character → Character) :
    (board.modifyCharacter entity f).playerCount = board.playerCount := by
  unfold modifyCharacter playerCount
  split
  · exact PerPlayer.count_modify _ _ _
  · rfl

@[simp] theorem seat?_modifyCharacter (board : Board) (entity other : EntityId)
    (f : Character → Character) :
    (board.modifyCharacter entity f).seat? other = board.seat? other := by
  unfold seat?
  rw [playerCount_modifyCharacter]

theorem character?_modifyCharacter (board : Board) (entity other : EntityId)
    (f : Character → Character) :
    (board.modifyCharacter entity f).character? other =
      if entity = other then (board.character? other).map f else board.character? other := by
  unfold character?
  rw [seat?_modifyCharacter]
  unfold modifyCharacter
  cases hother : board.seat? other with
  | some player =>
    cases hentity : board.seat? entity with
    | some player' =>
      have hsame : player' = player ↔ entity = other := by
        unfold seat? at hother hentity
        split at hother <;> split at hentity <;> cases hother <;> cases hentity
        cases entity
        cases other
        simp
      by_cases h : entity = other
      · simp [modifyPlayer, PerPlayer.get?_modify, h, hsame.2 h, Function.comp_def]
      · simp [modifyPlayer, PerPlayer.get?_modify, h, mt hsame.1 h]
    | none =>
      have h : entity ≠ other := by
        rintro rfl
        rw [hother] at hentity
        cases hentity
      simp [h]
  | none =>
    cases hentity : board.seat? entity with
    | some player' =>
      have h : entity ≠ other := by
        rintro rfl
        rw [hother] at hentity
        cases hentity
      simp [modifyPlayer, minion?, h]
    | none =>
      by_cases h : entity = other
      · subst h
        simp [minion?, Function.comp_def]
      · simp [minion?, Table.get?_modify_of_ne _ _ h, h]

def summary (board : Board) : String :=
  s!"Game \x7b config: {board.settings.summary}, " ++
  s!"active_player: PlayerId({board.activePlayer.index}), " ++
  s!"turn_number: {board.turn}, minions: {board.minions.length}, " ++
  s!"auras: {board.auras.length} \x7d"

/-! Operations on stats. -/

def character (entity : EntityId) : BoardM Character := do
  match (← get).character? entity with
  | some character => return character
  | none => throw (.unknownEntity entity)

/-- Update a stat by a partial function. Where the function has no value the stat stays. -/
def updateStat (entity : EntityId) (key : String) (f : Amount → Option Amount) :
    BoardM Amount := do
  let c ← character entity
  match f (c.stat key) with
  | some value =>
    modify (·.modifyCharacter entity (·.withStat key value))
    return value
  | none => throw (.statOverflow entity key)

def raiseStat (entity : EntityId) (key : String) (amount : Amount) : BoardM Amount :=
  updateStat entity key (·.add? amount)

def lowerStat (entity : EntityId) (key : String) (amount : Amount) : BoardM Amount :=
  updateStat entity key (·.sub? amount)

def setStat (entity : EntityId) (key : String) (value : Amount) : BoardM Unit := do
  let _ ← character entity
  modify (·.modifyCharacter entity (·.withStat key value))

end Board

/-- Make a stat change. A change that fails has no effect. -/
def StatChange.make (change : StatChange) (target : EntityId) : BoardM Unit := do
  match change with
  | .attack amount => discard (Board.raiseStat target Stat.attack amount)
  | .health amount =>
    let _ ← Board.raiseStat target Stat.maxHealth amount
    match ← attempt (Board.raiseStat target Stat.health amount) with
    | .ok _ => return
    | .error fault =>
      let _ ← Board.lowerStat target Stat.maxHealth amount
      throw fault
  | .taunt => discard (Board.raiseStat target Stat.taunt .one)

/-- Take a stat change back. Taking back that fails has no effect. -/
def StatChange.undo (change : StatChange) (target : EntityId) : BoardM Unit := do
  match change with
  | .attack amount => discard (Board.lowerStat target Stat.attack amount)
  | .health amount =>
    let _ ← Board.lowerStat target Stat.maxHealth amount
    match ← attempt (Board.lowerStat target Stat.health amount) with
    | .ok _ => return
    | .error fault =>
      let _ ← Board.raiseStat target Stat.maxHealth amount
      throw fault
  | .taunt => discard (Board.lowerStat target Stat.taunt .one)

/-- Restore health up to its greatest value. Health above that stays. -/
def Board.heal (target : EntityId) (amount : Amount) : BoardM Unit := do
  let board ← get
  let health := (board.stat? target Stat.health).getD .zero
  let maxHealth := (board.stat? target Stat.maxHealth).getD .zero
  setStat target Stat.health (((health.saturatingAdd amount).min maxHealth).max health)

end CardEffects
