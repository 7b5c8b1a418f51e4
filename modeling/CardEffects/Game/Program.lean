import CardEffects.Board.Minions

/-!
# Programs

A program is a finite tree of operations on a game. After each operation it goes on with the
result, whether a value or a fault, so a program may pass over the faults of its operations. It
may look at the board, keep a state of its own, and subscribe further programs. Programs are what
subscriptions run, besides the actions of effects and the endings of auras.
-/

namespace CardEffects

/-- An operation on a game. -/
inductive Operation where
  | summon (player : PlayerId) (place : Option Nat) (name : String) (attack health : Amount)
  | removeMinion (minion : EntityId)
  | raiseStat (entity : EntityId) (key : String) (amount : Amount)
  | lowerStat (entity : EntityId) (key : String) (amount : Amount)
  | setStat (entity : EntityId) (key : String) (value : Amount)
  | dealDamage (source : Option EntityId) (target : EntityId) (amount : Amount)
  | endTurn
  | fire (surface : EntityId) (event : String) (args : Payload)
  | unsubscribe (surface : EntityId) (event : String) (listener : ListenerId)
  | release (event : Event) (binding : Binding)
  | act (action : Action) (target : EntityId)
  | undo (change : StatChange) (target : EntityId)
  | switchOnEffect (effect : Effect) (owner : EntityId)
  | switchOffEffect (effect : Effect)
  | attachEffect (owner : EntityId) (effect : Effect)
  | detachEffects (owner : EntityId)
  | switchOnAura (aura : Aura) (slot : Slot)
  | switchOffAura (aura : Aura)
  | addAura (holder : PlayerId) (owner : EntityId) (aura : Aura)
  | removeAura (aura : AuraId)
  | refreshAuras

/-- What an operation results in when it succeeds. -/
def Operation.Reply : Operation → Type
  | .summon .. => EntityId
  | .removeMinion _ => Minion
  | .raiseStat .. => Amount
  | .lowerStat .. => Amount
  | .switchOnEffect .. => Effect
  | .detachEffects _ => Nat
  | .switchOnAura .. => Aura
  | .addAura .. => AuraId
  | _ => Unit

/-- A tree of operations, with a state of type `σ` that only programs read and write. -/
inductive Program (σ : Type) : Type where
  /-- The end, and whether it is a fault. -/
  | finish (result : Except Fault Unit)
  /-- Look at the board. -/
  | look (next : Board → Program σ)
  /-- Change the programs' own state. -/
  | note (update : σ → σ) (next : σ → Program σ)
  /-- Perform an operation. -/
  | perform (operation : Operation) (next : Except Fault operation.Reply → Program σ)
  /-- Subscribe a program to an occurrence on a surface. -/
  | subscribe (surface : EntityId) (event : String) (body : Payload → Program σ)
    (next : Except Fault ListenerId → Program σ)
  /-- Subscribe a program to an event on behalf of a target. -/
  | subscribeEvent (event : Event) (target : EntityId) (body : Payload → Program σ)
    (next : Except Fault Binding → Program σ)

/-- A board, the programs that its subscriptions run, and the programs' own state. -/
structure Game (σ : Type) where
  board : Board
  scripts : Table ListenerId (Payload → Program σ) := []
  host : σ

/-- An operation on a game. A fault leaves the game as it was when the fault arose. -/
abbrev GameM (σ : Type) : Type → Type :=
  EStateM Fault (Game σ)

/-- A way to fire an occurrence on a surface. -/
abbrev Firing (σ : Type) : Type :=
  EntityId → String → Payload → GameM σ Unit

/-- An operation on the board of a game. -/
def onBoard {σ α : Type} (operation : BoardM α) : GameM σ α := fun game =>
  match operation game.board with
  | .ok a board => .ok a { game with board }
  | .error fault board => .error fault { game with board }

end CardEffects
