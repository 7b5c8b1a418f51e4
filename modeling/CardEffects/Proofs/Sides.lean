import CardEffects.Proofs.AuraAccounting
import CardEffects.Proofs.DispatchPasses

/-!
# Sides

A board keeps the minions in play in a table and the sides they stand on in a list for each player.
The two agree at every moment of a run, also while a minion is being summoned or removed and the
subscriptions that listen for it are called.
-/

namespace CardEffects.Proofs

/-- Whether every minion of an outline stands on the side of its controller, one of `count`
players. -/
structure Seated (count : Nat) (o : Outline) : Prop where
  count_eq : o.sides.length = count
  on_side : ∀ e player, Table.get? o.controllers e = some player →
    ∃ side, o.sides[player.index]? = some side ∧ e ∈ side

lemma Seated.of_seating {count : Nat} {b b' : Board} (h : Seated count (outline b))
    (hseating : seating b' = seating b) : Seated count (outline b') where
  count_eq := by
    have hsides : (outline b').sides = (outline b).sides := congrArg (·.1) hseating
    rw [hsides]
    exact h.count_eq
  on_side := by
    have hsides : (outline b').sides = (outline b).sides := congrArg (·.1) hseating
    have hcontrollers : (outline b').controllers = (outline b).controllers :=
      congrArg (·.2.1) hseating
    rw [hsides, hcontrollers]
    exact h.on_side

lemma Seated.placed {count : Nat} {b : Board} (h : Seated count (outline b)) {minion : Minion}
    {index : Nat} {seat : Player} (hseat : b.players.get? minion.controller = some seat)
    (hindex : index ≤ seat.minions.length) :
    Seated count (outline (placed b minion.controller index minion)) := by
  have hside : (outline b).sides[minion.controller.index]? = some seat.minions := by
    simp only [PerPlayer.get?] at hseat
    simp [outline, hseat]
  rw [outline_placed]
  refine ⟨by simpa using h.count_eq, fun e player hget => ?_⟩
  simp only [List.getElem?_modify]
  by_cases he : (⟨b.nextEntity⟩ : EntityId) = e
  · subst he
    rw [Table.get?_insert_self] at hget
    obtain rfl := Option.some.inj hget
    exact ⟨seat.minions.insertIdx index ⟨b.nextEntity⟩, by simp [hside],
      (List.mem_insertIdx hindex).mpr (.inl rfl)⟩
  · rw [Table.get?_insert_of_ne _ _ he] at hget
    obtain ⟨side, hold, hmem⟩ := h.on_side e player hget
    by_cases hplayer : minion.controller.index = player.index
    · rw [hplayer, hold] at hside
      obtain rfl := Option.some.inj hside
      exact ⟨seat.minions.insertIdx index ⟨b.nextEntity⟩, by simp [hplayer, hold],
        (List.mem_insertIdx hindex).mpr (.inr hmem)⟩
    · exact ⟨side, by simp [hplayer, hold], hmem⟩

lemma Seated.departed {count : Nat} {b : Board} (h : Seated count (outline b)) (player : PlayerId)
    (id : EntityId) : Seated count (outline (departed b player id)) := by
  rw [outline_departed]
  refine ⟨by simpa using h.count_eq, fun e controller hget => ?_⟩
  by_cases he : id = e
  · subst he
    rw [Table.get?_erase_self] at hget
    cases hget
  · rw [Table.get?_erase_of_ne _ he] at hget
    obtain ⟨side, hold, hmem⟩ := h.on_side e controller hget
    simp only [List.getElem?_modify, hold]
    by_cases hplayer : player.index = controller.index
    · exact ⟨side.erase id, by simp [hplayer], (List.mem_erase_of_ne (Ne.symm he)).mpr hmem⟩
    · exact ⟨side, by simp [hplayer], hmem⟩

lemma Seated.develops {count : Nat} {b b' : Board} (h : Seated count (outline b))
    (hdev : Develops b b') : Seated count (outline b') := by
  refine hdev.preserves (P := fun b => Seated count (outline b)) (fun c c' hstep hc => ?_) h
  rcases outline_step hstep with hsame | ⟨move, rfl⟩
  · rwa [hsame]
  · rcases seating_cases move c with
      hseating | ⟨player, index, minion, rfl, ⟨seat, hseat, hindex⟩, hplaced⟩ |
      ⟨leaver, minion, -, hdeparted⟩
    · exact hc.of_seating hseating
    · rw [hplaced]
      exact hc.placed hseat hindex
    · rw [hdeparted]
      exact hc.departed _ _

lemma Develops.presence {b b' : Board} (h : Develops b b') {entity : EntityId}
    (hlt : entity.raw < b.nextEntity) :
    b.nextEntity ≤ b'.nextEntity ∧ (b'.contains entity = true → b.contains entity = true) := by
  induction h with
  | refl => exact ⟨le_rfl, id⟩
  | tail _ hstep ih =>
    rename_i c c' _
    obtain ⟨hle, hback⟩ := ih
    rcases outline_step hstep with hsame | ⟨move, rfl⟩
    · have hnext : c'.nextEntity = c.nextEntity := congrArg Outline.nextEntity hsame
      rw [hnext, contains_eq_of_outline hsame]
      exact ⟨hle, hback⟩
    · obtain ⟨hle', hback'⟩ := presence_step move c (lt_of_lt_of_le hlt hle)
      exact ⟨hle.trans hle', fun hafter => hback (hback' hafter)⟩

/-! ### Boards -/

section Boards

variable {count : Nat} {b : Board}

lemma Seated.playerCount_eq (h : Seated count (outline b)) : b.playerCount = count := by
  exact (count_outline b).symm.trans h.count_eq

/-- A minion stands on a side exactly if it is in play for that player. -/
lemma mem_minionsOf_iff (hwell : WellFormed (outline b)) (h : Seated count (outline b))
    (player : PlayerId) (id : EntityId) :
    id ∈ b.minionsOf player ↔ ∃ minion, b.minion? id = some minion ∧ minion.controller = player := by
  constructor
  · intro hmem
    exact Option.map_eq_some_iff.mp (controller_of_mem_minionsOf hwell hmem)
  · rintro ⟨minion, hminion, rfl⟩
    obtain ⟨side, hside, hmem⟩ := h.on_side id minion.controller (by
      rw [controllers_outline, hminion]
      rfl)
    simp only [outline, List.getElem?_map, Option.map_eq_some_iff] at hside
    obtain ⟨seat, hseat, rfl⟩ := hside
    unfold Board.minionsOf PerPlayer.get?
    rw [hseat]
    exact hmem

lemma disjoint_minionsOf (hwell : WellFormed (outline b)) {player player' : PlayerId}
    (hne : player ≠ player') : (b.minionsOf player).Disjoint (b.minionsOf player') := by
  intro id hmem hmem'
  have hfirst := controller_of_mem_minionsOf hwell hmem
  rw [controller_of_mem_minionsOf hwell hmem'] at hfirst
  exact hne (Option.some.inj hfirst).symm

lemma controller_lt (h : Seated count (outline b)) {id : EntityId} {minion : Minion}
    (hminion : b.minion? id = some minion) : minion.controller.index < b.playerCount := by
  obtain ⟨side, hside, -⟩ := h.on_side id minion.controller (by
    rw [controllers_outline, hminion]
    rfl)
  rw [h.playerCount_eq, ← h.count_eq]
  exact (List.getElem?_eq_some_iff.mp hside).1

end Boards

section Runs

variable {σ : Type} {settings : Settings} {host : σ} {game : Game σ}
  (hnew : Game.new settings host = .ok game)

include hnew

lemma seated_new : Seated settings.playerCount (outline game.board) := by
  obtain ⟨players, hboard, hvalues, hcount⟩ := new_eq (board_new hnew)
  rw [hboard]
  refine ⟨?_, by simp [outline]⟩
  have hmod : settings.playerCount % 256 = settings.playerCount := Nat.mod_eq_of_lt (by omega)
  simp [outline, hvalues, PlayerId.all, hmod]

/-- On every board of a run the sides list the minions in play, each once and for its controller, who
is one of the players; the minions have numbers from the number of players to that of the next
minion; and who has left play does not come back. -/
theorem sides_agree (program : Program σ) :
    Game.run watchedFire (watch program) (withTranscript game {}) =
        transcribed (transcript program game) (Game.execute program game) ∧
    (∀ b ∈ boards program game, b.playerCount = settings.playerCount ∧
      (∀ player, (b.minionsOf player).Nodup) ∧
      (∀ player player', player ≠ player' →
        (b.minionsOf player).Disjoint (b.minionsOf player')) ∧
      (∀ player id, id ∈ b.minionsOf player ↔
        ∃ minion, b.minion? id = some minion ∧ minion.controller = player) ∧
      ∀ id minion, b.minion? id = some minion → minion.controller.index < b.playerCount ∧
        b.playerCount ≤ id.raw ∧ id.raw < b.nextEntity) ∧
    ∀ b₁ b₂ b₃, [b₁, b₂, b₃].Sublist (boards program game) → ∀ id,
      b₁.contains id = true → b₂.contains id = false → b₃.contains id = false := by
  obtain ⟨hpair, hboards⟩ := boards_develop (dispatching_new hnew) program
  have hwell : ∀ b ∈ boards program game, WellFormed (outline b) := fun b hb =>
    (wellFormed_new (board_new hnew)).develops (hboards b hb).1
  refine ⟨(watched_execute (dispatching_new hnew) program).1, fun b hb => ?_, ?_⟩
  · have hseated := (seated_new hnew).develops (hboards b hb).1
    refine ⟨hseated.playerCount_eq, minionsOf_nodup (hwell b hb),
      fun _ _ => disjoint_minionsOf (hwell b hb), mem_minionsOf_iff (hwell b hb) hseated,
      fun id minion hminion => ⟨controller_lt hseated hminion,
        playerCount_le_of_minion? (hwell b hb) hminion, ?_⟩⟩
    exact (numbered_of_isMinion (hwell b hb) (by simp [Board.isMinion, hminion])).2
  · intro b₁ b₂ b₃ hsub id hin hout
    have hthree := hpair.sublist hsub
    simp only [List.pairwise_cons, List.mem_cons, List.not_mem_nil, or_false] at hthree
    have hdev : Develops b₁ b₂ := hthree.1 b₂ (.inl rfl)
    have hdev' : Develops b₂ b₃ := hthree.2.1 b₃ rfl
    have hlt : id.raw < b₁.nextEntity :=
      number_lt_of_contains (hwell b₁ (hsub.subset (by simp))) hin
    have hnext := (hdev.presence hlt).1
    cases hback : b₃.contains id with
    | false => rfl
    | true =>
      have hthen := (hdev'.presence (lt_of_lt_of_le hlt hnext)).2 hback
      rw [hout] at hthen
      cases hthen

end Runs

/-- A player summons two minions, the first of them leaves, and a third one is summoned. A program
that listens for the third one removes it at once. -/
def skirmish : Program Unit :=
  .perform (.summon ⟨0⟩ none "Scout" .one .one) fun _ =>
    .perform (.summon ⟨0⟩ (some 0) "Guard" .one .one) fun _ =>
      .perform (.removeMinion ⟨2⟩) fun _ =>
        .subscribe ⟨0⟩ Occurrence.minionSummoned
          (fun _ => .perform (.removeMinion ⟨4⟩) fun _ => .finish (.ok ()))
          fun _ => .perform (.summon ⟨0⟩ none "Rogue" .one .one) fun _ => .finish (.ok ())

theorem skirmish_sides_agree :
    ∃ game, Game.new Settings.standard () = .ok game ∧ ∃ b ∈ boards skirmish game,
      b.minionsOf ⟨0⟩ = [⟨3⟩, ⟨4⟩] ∧
      (∃ minion, b.minion? ⟨4⟩ = some minion ∧ minion.controller = ⟨0⟩) ∧
      (leftBy (Game.execute skirmish) game).board.minionsOf ⟨0⟩ = [⟨3⟩] := by
  obtain ⟨game, hnew⟩ : ∃ game, Game.new Settings.standard () = .ok game := ⟨_, rfl⟩
  have hsides := (sides_agree hnew skirmish).2.1
  have hmoment : [⟨3⟩, ⟨4⟩] ∈ (boards skirmish game).map (·.minionsOf ⟨0⟩) := by
    cases hnew
    decide +kernel
  obtain ⟨b, hb, hside⟩ := List.mem_map.mp hmoment
  refine ⟨game, hnew, b, hb, hside, ((hsides b hb).2.2.2.1 _ _).mp (by simp [hside]), ?_⟩
  cases hnew
  decide +kernel

end CardEffects.Proofs
