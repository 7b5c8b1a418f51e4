import CardEffects.Proofs.Outlines

/-!
# Stat levels

What a stat change does to a board is said in two parts: the level of every stat, read as an
exact integer, and the board without its stats, which stays the same. `Shifted` puts the two
together.
-/

namespace CardEffects.Proofs

/-! ### Boards without their stats -/

def bareCharacter (character : Character) : Character :=
  { character with stats := [] }

def barePlayer (player : Player) : Player :=
  { player with hero := bareCharacter player.hero }

def bareMinion (minion : Minion) : Minion :=
  { minion with body := bareCharacter minion.body }

/-- A board without the stats of its heroes and minions. -/
def bare (board : Board) : Board :=
  { board with
    players := ⟨board.players.values.map barePlayer⟩
    minions := board.minions.map fun entry => (entry.1, bareMinion entry.2) }

lemma bare_modifyCharacter (board : Board) (entity : EntityId) (f : Character → Character)
    (h : ∀ c, bareCharacter (f c) = bareCharacter c) :
    bare (board.modifyCharacter entity f) = bare board := by
  unfold Board.modifyCharacter
  cases board.seat? entity with
  | some player =>
    simp only [bare, Board.modifyPlayer, PerPlayer.modify]
    rw [map_list_modify _ _ _ barePlayer (by intro p; simp [barePlayer, h])]
  | none =>
    simp only [bare]
    rw [map_table_modify _ _ _ _ (by intro k m; simp [bareMinion, h])]

@[simp] lemma playerCount_bare (board : Board) : (bare board).playerCount = board.playerCount := by
  simp [bare, Board.playerCount, PerPlayer.count]

@[simp] lemma seat?_bare (board : Board) (entity : EntityId) :
    (bare board).seat? entity = board.seat? entity := by
  unfold Board.seat?
  rw [playerCount_bare]

@[simp] lemma minion?_bare (board : Board) (entity : EntityId) :
    (bare board).minion? entity = (board.minion? entity).map bareMinion :=
  get?_map_values _ _ _

@[simp] lemma get?_players_bare (board : Board) (player : PlayerId) :
    (bare board).players.get? player = (board.players.get? player).map barePlayer := by
  simp [bare, PerPlayer.get?]

@[simp] lemma character?_bare (board : Board) (entity : EntityId) :
    (bare board).character? entity = (board.character? entity).map bareCharacter := by
  unfold Board.character?
  rw [seat?_bare]
  cases board.seat? entity with
  | some player => simp [Function.comp_def, barePlayer]
  | none => simp [Function.comp_def, bareMinion]

lemma outline_eq_of_bare {b b' : Board} (h : bare b' = bare b) : outline b' = outline b := by
  have hbare : ∀ board, outline (bare board) = outline board := by
    intro board
    simp [outline, bare, Function.comp_def, barePlayer, bareMinion]
  rw [← hbare, h, hbare]

lemma listeners_eq_of_bare {b b' : Board} (h : bare b' = bare b) (entity : EntityId) :
    (b'.character? entity).map (·.listeners) = (b.character? entity).map (·.listeners) := by
  have hc := congrArg (fun b : Board => (b.character? entity).map (·.listeners)) h
  simpa [Function.comp_def, bareCharacter] using hc

lemma character?_isSome (board : Board) (entity : EntityId) :
    (board.character? entity).isSome = board.contains entity := by
  unfold Board.character? Board.contains Board.isMinion
  cases h : board.seat? entity with
  | some player =>
    have hlt : player.index < board.players.count := by
      unfold Board.seat? Board.playerCount at h
      split at h
      · next hlt => cases h; exact hlt
      · cases h
    simpa using (PerPlayer.get?_isSome_iff _ _).2 hlt
  | none => simp

lemma character?_eq_none {board : Board} {entity : EntityId} (h : board.contains entity = false) :
    board.character? entity = none := by
  rwa [← character?_isSome, Option.isSome_eq_false_iff, Option.isNone_iff_eq_none] at h

/-! ### Levels -/

/-- The level of a stat, as an exact integer. It is zero for what is not in play. -/
def level (board : Board) (entity : EntityId) (key : String) : Int :=
  ((board.stat? entity key).map (·.val)).getD 0

/-- Whether an integer is an amount. -/
def InRange (n : Int) : Prop :=
  -9223372036854775808 ≤ n ∧ n ≤ 9223372036854775807

lemma level_inRange (board : Board) (entity : EntityId) (key : String) :
    InRange (level board entity key) := by
  unfold level InRange
  cases board.stat? entity key with
  | none => simp
  | some a => exact ⟨a.ge_min, a.le_max⟩

lemma level_of_character? {board : Board} {entity : EntityId} {c : Character}
    (h : board.character? entity = some c) (key : String) :
    level board entity key = (c.stat key).val := by
  simp [level, Board.stat?, h]

lemma stat?_eq_of_level {b b' : Board} (hplay : b'.contains = b.contains) {entity : EntityId}
    {key : String} (hlevel : level b' entity key = level b entity key) :
    b'.stat? entity key = b.stat? entity key := by
  have hsome := congrFun hplay entity
  rw [← character?_isSome, ← character?_isSome] at hsome
  unfold Board.stat?
  cases hc : b.character? entity with
  | none =>
    rw [hc, Option.isSome_none, Option.isSome_eq_false_iff, Option.isNone_iff_eq_none] at hsome
    rw [hsome]
  | some c =>
    rw [hc] at hsome
    obtain ⟨c', hc'⟩ := Option.isSome_iff_exists.mp hsome
    rw [level_of_character? hc, level_of_character? hc'] at hlevel
    rw [hc', Option.map_some, Option.map_some, Amount.ext hlevel]

lemma stat_withStat (c : Character) (key key' : String) (value : Amount) :
    (c.withStat key value).stat key' = if key = key' then value else c.stat key' := by
  unfold Character.withStat Character.stat
  by_cases h : key = key'
  · simp [h]
  · simp [h, Table.get?_insert_of_ne _ _ h]

lemma level_withStat (board : Board) (entity : EntityId) (key : String) (value : Amount)
    {c : Character} (h : board.character? entity = some c) (entity' : EntityId) (key' : String) :
    level (board.modifyCharacter entity (·.withStat key value)) entity' key' =
      if entity = entity' ∧ key = key' then value.val else level board entity' key' := by
  unfold level Board.stat?
  rw [Board.character?_modifyCharacter]
  by_cases he : entity = entity'
  · subst he
    by_cases hk : key = key' <;> simp [h, hk, stat_withStat]
  · simp [he]

end CardEffects.Proofs
