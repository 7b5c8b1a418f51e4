import CardEffects.Identity

/-!
# Values per player

One value for each seat, in seat order.
-/

namespace CardEffects

/-- Why a number of players cannot sit at a table. -/
inductive PlayerCountFault where
  | noPlayers
  | tooManyPlayers
  deriving DecidableEq

def PlayerCountFault.message : PlayerCountFault → String
  | .noPlayers => "Must have at least 1 player"
  | .tooManyPlayers => "At most 255 players supported"

/-- A table seats 1 to 255 players. -/
def checkPlayerCount (count : Nat) : Except PlayerCountFault Unit :=
  if count = 0 then .error .noPlayers
  else if 255 < count then .error .tooManyPlayers
  else .ok ()

/-- One value for each player. -/
structure PerPlayer (α : Type) where
  values : List α

namespace PerPlayer

variable {α : Type}

/-- The map that holds `value p` for each of `count` players. -/
def new (count : Nat) (value : PlayerId → α) : Except PlayerCountFault (PerPlayer α) := do
  checkPlayerCount count
  return ⟨(PlayerId.all count).map value⟩

def count (map : PerPlayer α) : Nat :=
  map.values.length

/-- The value of a player, if there is such a player. -/
def get? (map : PerPlayer α) (player : PlayerId) : Option α :=
  map.values[player.index]?

/-- Update the value of a player, if there is such a player. -/
def modify (map : PerPlayer α) (player : PlayerId) (f : α → α) : PerPlayer α :=
  ⟨map.values.modify player.index f⟩

/-- Update the value of a player, who must be there. -/
def modify? (map : PerPlayer α) (player : PlayerId) (f : α → α) : Option (PerPlayer α) :=
  if player.index < map.count then some (map.modify player f) else none

/-- Every value with the player it is listed under. -/
def toList (map : PerPlayer α) : List (PlayerId × α) :=
  map.values.zipIdx.map fun (value, i) => (.wrap i, value)

@[simp] theorem count_modify (map : PerPlayer α) (player : PlayerId) (f : α → α) :
    (map.modify player f).count = map.count := by
  simp [modify, count]

theorem get?_modify (map : PerPlayer α) (player player' : PlayerId) (f : α → α) :
    (map.modify player f).get? player' =
      if player = player' then (map.get? player').map f else map.get? player' := by
  cases player
  cases player'
  simp [modify, get?, List.getElem?_modify]
  split <;> simp_all

theorem get?_isSome_iff (map : PerPlayer α) (player : PlayerId) :
    (map.get? player).isSome ↔ player.index < map.count := by
  simp [get?, count]

end PerPlayer

end CardEffects
