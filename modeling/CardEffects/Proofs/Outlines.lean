import CardEffects.Board.Minions
import CardEffects.Proofs.Outcomes
import CardEffects.Proofs.Tables

/-!
# Outlines

The outline of a board says who is in play on whose side, and which auras are registered. It
leaves out stats, subscriptions, effects and turns, and most operations keep it.
-/

namespace CardEffects.Proofs

/-- Who is in play, and which auras are registered. -/
structure Outline where
  /-- The minions of each player, in seat order. -/
  sides : List (List EntityId)
  controllers : Table EntityId PlayerId
  auras : Table AuraId ActiveAura
  nextEntity : Nat
  nextAura : Nat

def outline (board : Board) : Outline :=
  { sides := board.players.values.map (·.minions)
    controllers := board.minions.map fun entry => (entry.1, entry.2.controller)
    auras := board.auras
    nextEntity := board.nextEntity
    nextAura := board.nextAura }

lemma map_list_modify {α β : Type} (l : List α) (i : Nat) (f : α → α) (g : α → β)
    (h : ∀ a, g (f a) = g a) : (l.modify i f).map g = l.map g := by
  apply List.ext_getElem?
  intro j
  rw [List.getElem?_map, List.getElem?_map, List.getElem?_modify]
  cases l[j]? with
  | none => simp
  | some a => by_cases hj : i = j <;> simp [hj, h]

@[simp] lemma outline_modifyCharacter (board : Board) (entity : EntityId)
    (f : Character → Character) : outline (board.modifyCharacter entity f) = outline board := by
  unfold Board.modifyCharacter
  cases board.seat? entity with
  | some player =>
    simp only [outline, Board.modifyPlayer, PerPlayer.modify]
    rw [map_list_modify _ _ _ _ (by intro p; rfl)]
  | none =>
    simp only [outline]
    rw [map_table_modify _ _ _ _ (by intro k m; rfl)]

lemma count_outline (b : Board) : (outline b).sides.length = b.playerCount := by
  simp [outline, Board.playerCount, PerPlayer.count]

lemma controllers_outline (b : Board) (entity : EntityId) :
    Table.get? (outline b).controllers entity = (b.minion? entity).map (·.controller) :=
  get?_map_values b.minions (·.controller) entity

section Readings

variable {b b' : Board} (h : outline b' = outline b)

include h

lemma playerCount_eq_of_outline : b'.playerCount = b.playerCount := by
  rw [← count_outline, h, count_outline]

lemma seat?_eq_of_outline (entity : EntityId) : b'.seat? entity = b.seat? entity := by
  unfold Board.seat?
  rw [playerCount_eq_of_outline h]

lemma controllers_eq_of_outline (entity : EntityId) :
    (b'.minion? entity).map (·.controller) = (b.minion? entity).map (·.controller) := by
  rw [← controllers_outline, h, controllers_outline]

lemma isMinion_eq_of_outline (entity : EntityId) : b'.isMinion entity = b.isMinion entity := by
  have hsome := congrArg Option.isSome (controllers_eq_of_outline h entity)
  simpa [Board.isMinion] using hsome

lemma contains_eq_of_outline (entity : EntityId) : b'.contains entity = b.contains entity := by
  unfold Board.contains
  rw [seat?_eq_of_outline h, isMinion_eq_of_outline h]

lemma auras_eq_of_outline : b'.auras = b.auras :=
  (congrArg Outline.auras h : (outline b').auras = (outline b).auras)

end Readings

/-- Whether an entity is a hero or a minion in play. -/
def Outline.InPlay (o : Outline) (entity : EntityId) : Prop :=
  entity.raw < o.sides.length ∨ (Table.get? o.controllers entity).isSome

lemma inPlay_outline_iff (b : Board) (entity : EntityId) :
    (outline b).InPlay entity ↔ b.contains entity = true := by
  unfold Outline.InPlay Board.contains Board.seat? Board.isMinion
  rw [count_outline, controllers_outline, Option.isSome_map]
  by_cases h : entity.raw < b.playerCount <;> simp [h]

end CardEffects.Proofs
