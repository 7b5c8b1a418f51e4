/-!
# Identities

Heroes and minions share one row of numbers: the first numbers, one for each player, are the
heroes, and the numbers after them go to the minions in the order of their summoning. Entity
numbers have 32 bits and player numbers have 8, so counts beyond those widths wrap.
-/

namespace CardEffects

/-- The number of a hero or a minion. -/
structure EntityId where
  raw : Nat
  deriving DecidableEq, Inhabited

/-- The seat of a player, counted from 0. -/
structure PlayerId where
  index : Nat
  deriving DecidableEq, Inhabited

/-- The number of one subscription, unique on a board. -/
structure ListenerId where
  raw : Nat
  deriving DecidableEq, Inhabited

/-- The number of one registered aura, unique on a board. -/
structure AuraId where
  raw : Nat
  deriving DecidableEq, Inhabited

namespace PlayerId

/-- The seat whose number is the given one in 8 bits. -/
def wrap (n : Nat) : PlayerId :=
  ⟨n % 256⟩

/-- The next seat around a table of `count` players. -/
def next (player : PlayerId) (count : Nat) : PlayerId :=
  wrap ((player.index + 1) % count)

/-- The next seat, if there are seats. -/
def next? (player : PlayerId) (count : Nat) : Option PlayerId :=
  if count = 0 then none else some (player.next count)

/-- The seats of a table of `count` players, in order. -/
def all (count : Nat) : List PlayerId :=
  (List.range (count % 256)).map PlayerId.mk

def hero (player : PlayerId) : EntityId :=
  ⟨player.index⟩

def display (player : PlayerId) : String :=
  s!"Player {player.index}"

end PlayerId

namespace EntityId

/-- The first number that goes to a minion at a table of `count` players. -/
def firstMinion (count : Nat) : Nat :=
  count % 4294967296

/-- Whether an entity is a hero at a table of `count` players. -/
def isPlayer (entity : EntityId) (count : Nat) : Bool :=
  entity.raw < firstMinion count

/-- The player whose hero an entity is. -/
def asPlayer (entity : EntityId) (count : Nat) : Option PlayerId :=
  if entity.isPlayer count then some (.wrap entity.raw) else none

def display (entity : EntityId) : String :=
  s!"Entity({entity.raw})"

end EntityId

def ListenerId.display (listener : ListenerId) : String :=
  s!"Listener({listener.raw})"

def AuraId.display (aura : AuraId) : String :=
  s!"Aura({aura.raw})"

end CardEffects
