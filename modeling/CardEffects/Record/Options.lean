import CardEffects.Settings
import CardEffects.Json.Basic
import CardEffects.Record.Writer

/-!
# Values in JSON

Numbers, options, settings, payloads and values per player as they stand in JSON. A value that is
not of its type has no reading; there is no conversion from floats, texts or truth values.
-/

namespace CardEffects

namespace Json

/-- An integer from 0 up to a bound that it stays below. -/
def natBelow? (bound : Nat) : Json → Option Nat
  | .int n => if 0 ≤ n ∧ n < bound then some n.toNat else none
  | _ => none

/-- An unsigned number of 64 bits. -/
def size? : Json → Option Nat :=
  natBelow? 18446744073709551616

def amount? : Json → Option Amount
  | .int n => Amount.ofInt? n
  | _ => none

def entity? (value : Json) : Option EntityId :=
  (natBelow? 4294967296 value).map EntityId.mk

/-- A value, or `null` for none. -/
def orNull? {α : Type} (read : Json → Option α) : Json → Option (Option α)
  | .null => some none
  | value => (read value).map some

/-- One of a list of names, given as a string or as the only field of an object that holds
`null`. -/
def choice? {α : Type} (names : List (String × α)) : Json → Option α
  | .str name => Table.get? names name
  | .obj [(name, .null)] => Table.get? names name
  | _ => none

/-- The value of the only field, which has the given name. -/
def soleField? (name : String) (fields : Fields) : Option Json :=
  match fields with
  | [(field, value)] => if field = name then some value else none
  | _ => none

end Json

def Scope.ofJson? : Json → Option Scope :=
  Json.choice? [(Scope.minion.name, .minion), (Scope.player.name, .player)]

def Coverage.ofJson? : Json → Option Coverage :=
  Json.choice? [(Coverage.friendly.name, .friendly), (Coverage.enemy.name, .enemy),
    (Coverage.all.name, .all)]

def RemovalPolicy.ofJson? : Json → Option RemovalPolicy :=
  Json.choice? [(RemovalPolicy.snapshot.name, .snapshot),
    (RemovalPolicy.recompute.name, .recompute)]

namespace Settings

/-- Settings as an object, whose unknown fields are ignored, or as an array in the order player
count, hero health, dispatch depth. All but the player count may be left out. -/
def ofJson? : Json → Option Settings
  | .obj fields => do
    let count ← (← Table.get? fields "player_count").size?
    let health ← ((Table.get? fields "hero_health").map Json.amount?).getD defaultHeroHealth
    let depth ← ((Table.get? fields "max_dispatch_depth").map Json.size?).getD
      defaultMaxDispatchDepth
    return ⟨count, health, depth⟩
  | .arr [count] => do
    return ⟨← count.size?, defaultHeroHealth, defaultMaxDispatchDepth⟩
  | .arr [count, health] => do
    return ⟨← count.size?, ← health.amount?, defaultMaxDispatchDepth⟩
  | .arr [count, health, depth] => do
    return ⟨← count.size?, ← health.amount?, ← depth.size?⟩
  | _ => none

def toJson (settings : Settings) : Json :=
  Json.object [("player_count", .int settings.playerCount),
    ("hero_health", settings.heroHealth.toJson),
    ("max_dispatch_depth", .int settings.maxDispatchDepth)]

end Settings

namespace Payload

/-- A payload as an object, in which every field may be absent or `null` and unknown ones are
ignored, or as an array of three. -/
def ofJson? : Json → Option Payload
  | .obj fields => do
    let focus ← ((Table.get? fields "focus").getD .null).orNull? Json.entity?
    let other ← ((Table.get? fields "other").getD .null).orNull? Json.entity?
    let amount ← ((Table.get? fields "amount").getD .null).orNull? Json.amount?
    return ⟨focus, other, amount⟩
  | .arr [focus, other, amount] => do
    return ⟨← focus.orNull? Json.entity?, ← other.orNull? Json.entity?,
      ← amount.orNull? Json.amount?⟩
  | _ => none

end Payload

namespace PerPlayer

variable {α : Type}

/-- One value for each player, each read by `read`, as an object with the field `data`, whose other
fields are ignored, or as an array of one. -/
def readWith? (read : Json → Option α) : Json → Option (PerPlayer α)
  | .obj fields => do
    let .arr items ← Table.get? fields "data" | none
    return ⟨← items.mapM read⟩
  | .arr [.arr items] => return ⟨← items.mapM read⟩
  | _ => none

/-- The values of all players, each written by `write`, as an object with the field `data`. -/
def writeWith (write : α → Json) (map : PerPlayer α) : Json :=
  Json.object [("data", .arr (map.values.map write))]

def ofJson? : Json → Option (PerPlayer Amount) :=
  readWith? Json.amount?

def toJson (map : PerPlayer Amount) : Json :=
  map.writeWith Amount.toJson

end PerPlayer

end CardEffects
