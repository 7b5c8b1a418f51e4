import CardEffects.Board.Auras
import CardEffects.Board.Effects

/-!
# Minions in play

Putting minions into play and taking them out. Numbers of minions are never used twice.
-/

namespace CardEffects

namespace Board

/-- Take a minion from its player's side. -/
def leavePlay (id : EntityId) : BoardM Minion := do
  match (← get).minion? id with
  | some minion =>
    modify fun board =>
      { board.modifyPlayer minion.controller fun player =>
          { player with minions := player.minions.erase id } with
        minions := Table.erase board.minions id }
    return minion
  | none => throw (.unknownEntity id)

/-- Take a minion out of play, after its effects and the auras it owns. -/
def removeMinion (id : EntityId) : BoardM Minion := do
  if !(← get).isMinion id then
    throw (.unknownEntity id)
  let _ ← detachEffects id
  removeAuras ((← get).aurasOwnedBy id)
  leavePlay id

/-- Put a new minion on a player's side, at a place or at the right end. -/
def placeMinion (player : PlayerId) (place : Option Nat) (name : String)
    (attack health : Amount) : BoardM EntityId := do
  let board ← get
  match board.players.get? player with
  | none => throw (.notAPlayer player.hero)
  | some seat =>
    let id : EntityId := ⟨board.nextEntity⟩
    let stats := [(Stat.attack, attack), (Stat.health, health), (Stat.maxHealth, health)]
    let minion : Minion := { name, controller := player, body := { stats } }
    let index := (place.map (Nat.min · seat.minions.length)).getD seat.minions.length
    modify fun board =>
      { board.modifyPlayer player fun p => { p with minions := p.minions.insertIdx index id } with
        minions := Table.insert board.minions id minion
        nextEntity := board.nextEntity + 1 }
    return id

end Board

end CardEffects
