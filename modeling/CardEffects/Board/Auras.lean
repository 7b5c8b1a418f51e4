import CardEffects.Board.Subscribing

/-!
# Auras in force

Putting auras on and taking them off, and the register that says which player holds which aura.
-/

namespace CardEffects

namespace StatChange

/-- Take a stat change back from each of several targets, up to the first fault. -/
def undoAll (change : StatChange) : List EntityId → BoardM Unit
  | [] => return
  | target :: targets => do
    change.undo target
    change.undoAll targets

/-- Make a stat change to each of several targets. If one of them fails the change is taken back
from those before it, the last first. `done` lists those that have it already, the last first. -/
def makeAll (change : StatChange) (done : List EntityId) : List EntityId → BoardM Unit
  | [] => return
  | target :: targets => do
    match ← attempt (change.make target) with
    | .ok _ => change.makeAll (target :: done) targets
    | .error fault =>
      change.undoAll done
      throw fault

/-- Take a stat change back from those of several targets that are minions in play. -/
def undoOnMinions (change : StatChange) : List EntityId → BoardM Unit
  | [] => return
  | target :: targets => do
    if (← get).isMinion target then
      change.undo target
    change.undoOnMinions targets

end StatChange

namespace MinionAura

def off (aura : MinionAura) : MinionAura :=
  { aura with active := none }

/-- Put an aura on the minions it picks. -/
def switchOn (aura : MinionAura) (slot : Slot) : BoardM MinionAura := do
  if aura.active.isSome then
    throw (.alreadyActive .minionAura)
  let matched ← settle (aura.matched (← get) slot.owner)
  aura.change.makeAll [] matched
  return { aura with active := some (slot, matched) }

/-- The minions that an aura is to be taken back from when it was put on `affected`. Without its
owner there is nothing to pick minions for, so they are those it was put on. -/
def leaving (aura : MinionAura) (board : Board) (owner : EntityId) (affected : List EntityId) :
    Except Fault (List EntityId) :=
  match aura.removal with
  | .snapshot => .ok affected
  | .recompute => if board.contains owner then aura.matched board owner else .ok affected

/-- Take an aura back from its minions. The aura is off from then on, also if that fails. -/
def switchOff (aura : MinionAura) : BoardM Unit := do
  match aura.active with
  | some (slot, affected) =>
    let targets ← settle (aura.leaving (← get) slot.owner affected)
    aura.change.undoOnMinions targets
  | none => throw (.notActive .minionAura)

end MinionAura

namespace PlayerAura

def off (aura : PlayerAura) : PlayerAura :=
  { aura with active := none }

/-- Put an aura on its owner and subscribe to its ending. -/
def switchOn (aura : PlayerAura) (slot : Slot) : BoardM PlayerAura := do
  if aura.active.isSome then
    throw (.alreadyActive .playerAura)
  aura.change.make slot.owner
  match ← attempt (aura.ending.subscribe slot.owner (.endAura slot.id)) with
  | .ok binding => return { aura with active := some (slot, binding) }
  | .error fault =>
    aura.change.undo slot.owner
    throw fault

/-- Take an aura back from its owner and release its subscription. The aura is off from then on,
also if that fails. -/
def switchOff (aura : PlayerAura) : BoardM Unit := do
  match aura.active with
  | some (slot, binding) =>
    aura.change.undo slot.owner
    aura.ending.unsubscribe binding
  | none => throw (.notActive .playerAura)

end PlayerAura

namespace Aura

def off : Aura → Aura
  | .minions aura => .minions aura.off
  | .player aura => .player aura.off

/-- Switch an aura on. An aura that cannot be switched on stays as it was. -/
def switchOn (aura : Aura) (slot : Slot) : BoardM Aura := do
  match aura with
  | .minions aura => return .minions (← aura.switchOn slot)
  | .player aura => return .player (← aura.switchOn slot)

/-- Switch an aura off. It is off from then on, also if its change cannot be taken back. -/
def switchOff : Aura → BoardM Unit
  | .minions aura => aura.switchOff
  | .player aura => aura.switchOff

end Aura

namespace Board

/-- Switch an aura on and register it with a player. Its number is used up even if it cannot be
switched on. -/
def addAura (holder : PlayerId) (owner : EntityId) (aura : Aura) : BoardM AuraId := do
  let board ← get
  if (board.players.get? holder).isNone then
    throw (.notAPlayer holder.hero)
  if !board.contains owner then
    throw (.unknownEntity owner)
  let slot : Slot := { id := ⟨board.nextAura⟩, owner, holder }
  modify fun board => { board with nextAura := board.nextAura + 1 }
  let aura ← aura.switchOn slot
  modify fun board =>
    { board.modifyPlayer holder fun player =>
        { player with auras := player.auras ++ [slot.id] } with
      auras := Table.insert board.auras slot.id { slot, aura } }
  return slot.id

/-- Drop an aura from the register and switch it off. -/
def removeAura (id : AuraId) : BoardM Unit := do
  match Table.get? (← get).auras id with
  | some active =>
    modify fun board =>
      { board.modifyPlayer active.slot.holder fun player =>
          { player with auras := player.auras.filter (· ≠ id) } with
        auras := Table.erase board.auras id }
    active.aura.switchOff
  | none => throw (.auraNotActive id)

/-- Drop auras one after another, up to the first fault. -/
def removeAuras : List AuraId → BoardM Unit
  | [] => return
  | id :: ids => do
    removeAura id
    removeAuras ids

def replaceAura (id : AuraId) (aura : Aura) : BoardM Unit :=
  modify fun board =>
    { board with auras := Table.modify board.auras id fun active => { active with aura } }

/-- Put an aura that follows the minions on again, for the slot it has. If that fails it stays
registered but off. -/
def refreshAura (id : AuraId) : BoardM Unit := do
  match Table.get? (← get).auras id with
  | none => return
  | some active =>
    if active.aura.tracksBoard then
      let reapply : BoardM Aura := do
        active.aura.switchOff
        active.aura.off.switchOn active.slot
      match ← attempt reapply with
      | .ok aura => replaceAura id aura
      | .error fault =>
        replaceAura id active.aura.off
        throw fault

/-- Put auras on again one after another, up to the first fault. -/
def refreshEach : List AuraId → BoardM Unit
  | [] => return
  | id :: ids => do
    refreshAura id
    refreshEach ids

/-- Put every aura that follows the minions on again, player by player and oldest first. -/
def refreshAuras : BoardM Unit := do
  refreshEach ((← get).players.values.flatMap (·.auras))

/-- The auras that an entity owns, oldest first. -/
def aurasOwnedBy (board : Board) (owner : EntityId) : List AuraId :=
  ((board.auras.filter (·.2.slot.owner = owner)).map (·.1)).mergeSort (·.raw ≤ ·.raw)

end Board

end CardEffects
