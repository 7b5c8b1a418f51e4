import CardEffects.Board.Minions
import CardEffects.Proofs.Surfaces

/-!
# Seats

Minions that come into play and minions that go. All characters but the one that comes or goes are
as before.
-/

namespace CardEffects.Proofs

/-- The board with a new minion at a place on a side. -/
def placed (board : Board) (player : PlayerId) (index : Nat) (minion : Minion) : Board :=
  { board.modifyPlayer player fun p =>
      { p with minions := p.minions.insertIdx index ⟨board.nextEntity⟩ } with
    minions := Table.insert board.minions ⟨board.nextEntity⟩ minion
    nextEntity := board.nextEntity + 1 }

/-- The board without a minion on a side. -/
def departed (board : Board) (player : PlayerId) (id : EntityId) : Board :=
  { board.modifyPlayer player fun p => { p with minions := p.minions.erase id } with
    minions := Table.erase board.minions id }

/-- Where a new minion stands among those on its side: at its spot, or at the right end. -/
def indexOn (spot : Option Nat) (side : List EntityId) : Nat :=
  min (spot.getD side.length) side.length

lemma placeMinion_run (player : PlayerId) (spot : Option Nat) (name : String)
    (attack health : Amount) (b : Board) :
    Board.placeMinion player spot name attack health b =
      match b.players.get? player with
      | none => .error (.notAPlayer player.hero) b
      | some seat => .ok ⟨b.nextEntity⟩ (placed b player (indexOn spot seat.minions)
          { name, controller := player, body := { stats :=
            [(Stat.attack, attack), (Stat.health, health), (Stat.maxHealth, health)] } }) := by
  have hindex : ∀ side : List EntityId,
      (spot.map (Nat.min · side.length)).getD side.length = indexOn spot side := fun side => by
    cases spot with
    | none => exact (Nat.min_self _).symm
    | some index => rfl
  unfold Board.placeMinion
  cases hseat : b.players.get? player with
  | none => simp [hseat]
  | some seat => simp [hseat, placed, ← hindex]

lemma placeMinion_outcome (player : PlayerId) (spot : Option Nat) (name : String)
    (attack health : Amount) (b : Board) :
    (∃ index stats, (∃ seat, b.players.get? player = some seat ∧ index ≤ seat.minions.length) ∧
      Board.placeMinion player spot name attack health b = .ok ⟨b.nextEntity⟩
        (placed b player index { name, controller := player, body := { stats } })) ∨
    ∃ fault, Board.placeMinion player spot name attack health b = .error fault b := by
  rw [placeMinion_run]
  cases hseat : b.players.get? player with
  | none => exact .inr ⟨_, rfl⟩
  | some seat => exact .inl ⟨_, _, ⟨seat, rfl, Nat.min_le_right _ _⟩, rfl⟩

lemma leavePlay_run (id : EntityId) (b : Board) :
    Board.leavePlay id b =
      match b.minion? id with
      | none => .error (.unknownEntity id) b
      | some minion => .ok minion (departed b minion.controller id) := by
  unfold Board.leavePlay
  cases h : b.minion? id with
  | none => simp [h]
  | some minion => simp [h, departed]

lemma removeMinion_run (id : EntityId) (b : Board) :
    Board.removeMinion id b =
      if b.isMinion id = false then .error (.unknownEntity id) b
      else
        match Board.detachEffects id b with
        | .error fault b₁ => .error fault b₁
        | .ok _ b₁ =>
          match Board.removeAuras (b₁.aurasOwnedBy id) b₁ with
          | .error fault b₂ => .error fault b₂
          | .ok _ b₂ => Board.leavePlay id b₂ := by
  unfold Board.removeMinion
  cases hminion : b.isMinion id with
  | false => simp [hminion]
  | true =>
    cases hdetach : Board.detachEffects id b with
    | error fault b₁ => simp [hminion, hdetach]
    | ok count b₁ =>
      cases hremove : Board.removeAuras (b₁.aurasOwnedBy id) b₁ <;>
        simp [hminion, hdetach, hremove]

lemma removeMinion_ok {id : EntityId} {minion : Minion} {b b' : Board}
    (h : Board.removeMinion id b = .ok minion b') :
    b.isMinion id = true ∧ ∃ count b₁ b₂, Board.detachEffects id b = .ok count b₁ ∧
      Board.removeAuras (b₁.aurasOwnedBy id) b₁ = .ok () b₂ ∧
      Board.leavePlay id b₂ = .ok minion b' ∧
      b₂.minion? id = some minion ∧ b' = departed b₂ minion.controller id := by
  rw [removeMinion_run] at h
  split at h
  · cases h
  · next hminion =>
    cases hdetach : Board.detachEffects id b with
    | error fault b₁ => simp [hdetach] at h
    | ok count b₁ =>
      cases hremove : Board.removeAuras (b₁.aurasOwnedBy id) b₁ with
      | error fault b₂ => simp [hdetach, hremove] at h
      | ok _ b₂ =>
        simp only [hdetach, hremove] at h
        refine ⟨by simpa using hminion, count, b₁, b₂, rfl, hremove, h, ?_⟩
        rw [leavePlay_run] at h
        cases hleaver : b₂.minion? id with
        | none => simp [hleaver] at h
        | some leaver =>
          simp only [hleaver, EStateM.Result.ok.injEq] at h
          rw [← h.1, ← h.2]
          exact ⟨rfl, rfl⟩

lemma seat?_modifyPlayer (b : Board) (player : PlayerId) (f : Player → Player) (entity : EntityId) :
    (b.modifyPlayer player f).seat? entity = b.seat? entity := by
  unfold Board.seat? Board.playerCount Board.modifyPlayer
  rw [PerPlayer.count_modify]

lemma hero_modifyPlayer (b : Board) (player seat : PlayerId) {f : Player → Player}
    (h : ∀ p, (f p).hero = p.hero) :
    ((b.modifyPlayer player f).players.get? seat).map (·.hero) =
      (b.players.get? seat).map (·.hero) := by
  by_cases hp : player = seat
  · simp [Board.modifyPlayer, PerPlayer.get?_modify, hp, Function.comp_def, h]
  · simp [Board.modifyPlayer, PerPlayer.get?_modify, hp]

lemma character?_placed_of_ne (b : Board) (player : PlayerId) (index : Nat) (minion : Minion)
    {entity : EntityId} (h : (⟨b.nextEntity⟩ : EntityId) ≠ entity) :
    (placed b player index minion).character? entity = b.character? entity := by
  have hseat : (placed b player index minion).seat? entity = b.seat? entity :=
    seat?_modifyPlayer b player _ entity
  unfold Board.character?
  rw [hseat]
  cases b.seat? entity with
  | some seat => exact hero_modifyPlayer b player seat fun _ => rfl
  | none => simp [placed, Board.minion?, Table.get?_insert_of_ne _ _ h]

lemma character?_placed_self (b : Board) (player : PlayerId) (index : Nat) (minion : Minion)
    (h : b.playerCount ≤ b.nextEntity) :
    (placed b player index minion).character? ⟨b.nextEntity⟩ = some minion.body := by
  have hseat : (placed b player index minion).seat? ⟨b.nextEntity⟩ = none := by
    refine (seat?_modifyPlayer b player _ _).trans ?_
    simp [Board.seat?, h]
  unfold Board.character?
  rw [hseat]
  simp [placed, Board.minion?]

lemma character?_departed_of_ne (b : Board) (player : PlayerId) {id entity : EntityId}
    (h : id ≠ entity) : (departed b player id).character? entity = b.character? entity := by
  have hseat : (departed b player id).seat? entity = b.seat? entity :=
    seat?_modifyPlayer b player _ entity
  unfold Board.character?
  rw [hseat]
  cases b.seat? entity with
  | some seat => exact hero_modifyPlayer b player seat fun _ => rfl
  | none => simp [departed, Board.minion?, Table.get?_erase_of_ne _ h]

lemma character?_departed_self (b : Board) (player : PlayerId) {id : EntityId}
    (h : b.playerCount ≤ id.raw) : (departed b player id).character? id = none := by
  have hseat : (departed b player id).seat? id = none := by
    refine (seat?_modifyPlayer b player _ _).trans ?_
    simp [Board.seat?, h]
  unfold Board.character?
  rw [hseat]
  simp [departed, Board.minion?]

/-! ### Outlines -/

lemma map_modifyPlayer {γ : Type} {r : Player → γ} (b : Board) (player : PlayerId)
    {f : Player → Player} {g : γ → γ} (h : ∀ p, r (f p) = g (r p)) :
    (b.modifyPlayer player f).players.values.map r =
      (b.players.values.map r).modify player.index g := by
  apply List.ext_getElem?
  intro i
  simp only [Board.modifyPlayer, PerPlayer.modify, List.getElem?_map, List.getElem?_modify]
  cases b.players.values[i]? with
  | none => rfl
  | some p => by_cases hi : player.index = i <;> simp [hi, h]

lemma controllers_insert (t : Table EntityId Minion) (id : EntityId) (minion : Minion) :
    (Table.insert t id minion).map (fun entry => (entry.1, entry.2.controller)) =
      Table.insert (t.map fun entry => (entry.1, entry.2.controller)) id minion.controller := by
  induction t with
  | nil => rfl
  | cons entry t ih => by_cases h : entry.1 = id <;> simp [Table.insert, h, ih]

lemma controllers_erase (t : Table EntityId Minion) (id : EntityId) :
    (Table.erase t id).map (fun entry => (entry.1, entry.2.controller)) =
      Table.erase (t.map fun entry => (entry.1, entry.2.controller)) id := by
  simp [Table.erase, List.filter_map, Function.comp_def]

lemma outline_placed (b : Board) (player : PlayerId) (index : Nat) (minion : Minion) :
    outline (placed b player index minion) =
      { outline b with
        sides := (outline b).sides.modify player.index fun side =>
          side.insertIdx index ⟨b.nextEntity⟩
        controllers :=
          Table.insert (outline b).controllers ⟨b.nextEntity⟩ minion.controller
        nextEntity := b.nextEntity + 1 } := by
  simp only [outline, placed, controllers_insert]
  rw [map_modifyPlayer (r := fun p : Player => p.minions) b player fun _ => rfl]
  rfl

lemma outline_departed (b : Board) (player : PlayerId) (id : EntityId) :
    outline (departed b player id) =
      { outline b with
        sides := (outline b).sides.modify player.index fun side => side.erase id
        controllers := Table.erase (outline b).controllers id } := by
  simp only [outline, departed, controllers_erase]
  rw [map_modifyPlayer (r := fun p : Player => p.minions)
    (g := fun side : List EntityId => side.erase id) b player fun _ => rfl]
  rfl

end CardEffects.Proofs
