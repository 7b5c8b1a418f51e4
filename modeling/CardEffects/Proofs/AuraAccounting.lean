import CardEffects.Proofs.WellFormed

/-!
# Accounts of auras

The base of a stat is what is left of its level without the shares of the registered auras. With
auras that are taken back from those they were put on, no adding, removing or refreshing of auras
changes the base of anything that stays in play.
-/

namespace CardEffects.Proofs

/-- What a registered aura adds to a stat: a minion aura to the minions it affects, a player aura
to its owner. -/
def grant (active : ActiveAura) (entity : EntityId) (key : String) : Int :=
  match active.aura with
  | .minions aura => if entity ∈ aura.affected then delta aura.change key else 0
  | .player aura => if entity = active.slot.owner then delta aura.change key else 0

/-- What all auras of a register add to a stat. -/
def granted (auras : Table AuraId ActiveAura) (entity : EntityId) (key : String) : Int :=
  (auras.map fun entry => grant entry.2 entity key).sum

/-- The level of a stat less what the registered auras add to it. -/
def base (board : Board) (entity : EntityId) (key : String) : Int :=
  level board entity key - granted board.auras entity key

/-- Whether an aura is taken back from those it was put on. -/
def KeepsSnapshot : Aura → Prop
  | .minions aura => aura.removal = .snapshot
  | .player _ => True

/-- Whether every stat of those that stay in play has the same base on two boards. -/
def KeepsBase (b b' : Board) : Prop :=
  ∀ entity, b.contains entity = true → b'.contains entity = true →
    ∀ key, base b' entity key = base b entity key

/-! ### Sums over a register -/

section Sums

variable (auras : Table AuraId ActiveAura) (entity : EntityId) (key : String)

lemma granted_insert {id : AuraId} (h : Table.get? auras id = none) (active : ActiveAura) :
    granted (Table.insert auras id active) entity key =
      granted auras entity key + grant active entity key := by
  rw [insert_eq_append h]
  simp [granted]

lemma granted_erase {id : AuraId} {active : ActiveAura} (hnodup : (Table.keys auras).Nodup)
    (h : Table.get? auras id = some active) :
    granted auras entity key =
      granted (Table.erase auras id) entity key + grant active entity key := by
  induction auras with
  | nil => cases h
  | cons entry auras ih =>
    have hnodup' : entry.1 ∉ Table.keys auras ∧ (Table.keys auras).Nodup :=
      List.nodup_cons.mp hnodup
    by_cases hid : entry.1 = id
    · subst hid
      have hactive : entry.2 = active := by simpa [Table.get?] using h
      have hrest : Table.erase (entry :: auras) entry.1 = auras := by
        have hself := erase_eq_self (get?_eq_none_of_not_mem.mpr hnodup'.1)
        simpa [Table.erase] using hself
      rw [hrest, ← hactive]
      simp [granted, add_comm]
    · have htail : Table.get? auras id = some active := by simpa [Table.get?, hid] using h
      have hsplit := ih hnodup'.2 htail
      have hrest : Table.erase (entry :: auras) id = entry :: Table.erase auras id := by
        simp [Table.erase, hid]
      rw [hrest]
      simp only [granted, List.map_cons, List.sum_cons] at hsplit ⊢
      rw [hsplit, add_assoc]

lemma granted_modify {id : AuraId} {active : ActiveAura} (f : ActiveAura → ActiveAura)
    (hnodup : (Table.keys auras).Nodup) (h : Table.get? auras id = some active) :
    granted (Table.modify auras id f) entity key =
      granted auras entity key - grant active entity key + grant (f active) entity key := by
  have hget : Table.get? (Table.modify auras id f) id = some (f active) := by
    rw [Table.get?_modify_self, h]
    rfl
  have hothers : Table.erase (Table.modify auras id f) id = Table.erase auras id := by
    clear h hget hnodup
    induction auras with
    | nil => rfl
    | cons entry auras ih =>
      by_cases hid : entry.1 = id
      · simpa [Table.modify, Table.erase, hid] using ih
      · simpa [Table.modify, Table.erase, hid] using ih
  rw [granted_erase auras entity key hnodup h,
    granted_erase _ entity key (by rwa [Table.keys_modify]) hget, hothers]
  ring

end Sums

/-! ### Boards with snapshot auras -/

/-- A well-formed board whose auras are taken back from those they were put on. -/
structure Sound (b : Board) : Prop where
  wellFormed : WellFormed (outline b)
  snapshot : ∀ id active, Table.get? b.auras id = some active → KeepsSnapshot active.aura

lemma isMinion_of_numbered {b : Board} {entity : EntityId} (h : (outline b).Numbered entity)
    (hplay : b.contains entity = true) : b.isMinion entity = true := by
  have hcount : b.playerCount ≤ entity.raw := (count_outline b).ge.trans h.1
  simpa [Board.contains, Board.seat?, not_lt.mpr hcount] using hplay

lemma minions_switchOff_level {id : AuraId} {slot : Slot} {aura : MinionAura} {b b' : Board}
    (hfits : AuraFits (outline b) id ⟨slot, .minions aura⟩) (hsnap : aura.removal = .snapshot)
    (hrun : aura.switchOff b = .ok () b') {entity : EntityId} (hplay : b.contains entity = true)
    (key : String) :
    level b' entity key = level b entity key - grant ⟨slot, .minions aura⟩ entity key := by
  rw [minions_switchOff_run] at hrun
  cases hactive : aura.active with
  | none => simp [hactive] at hrun
  | some on =>
    obtain ⟨slot', affected⟩ := on
    obtain ⟨-, hnodup, hnumbered⟩ := hfits.minions aura slot' affected rfl hactive
    have hleaving : aura.leaving b slot'.owner affected = .ok affected := by
      unfold MinionAura.leaving
      rw [hsnap]
    have hgrant : grant ⟨slot, .minions aura⟩ entity key =
        if entity ∈ affected then delta aura.change key else 0 := by
      simp [grant, MinionAura.affected, hactive]
    simp only [hactive, hleaving] at hrun
    rcases undoOnMinions_outcome aura.change affected b with
      ⟨b₁, hok, hshift⟩ | ⟨_, _, _, _, b₁, -, herror, -, -⟩
    · rw [hok] at hrun
      cases hrun
      rw [hshift.level_eq, onTargets_of_nodup (hnodup.filter _), hgrant]
      by_cases hmem : entity ∈ affected
      · -- Whoever is in play among the affected is still a minion, since numbers are not reused.
        have hminion := isMinion_of_numbered (hnumbered entity hmem) hplay
        rw [if_pos (List.mem_filter.mpr ⟨hmem, hminion⟩), if_pos hmem]
        ring
      · rw [if_neg fun h => hmem (List.mem_filter.mp h).1, if_neg hmem]
        ring
    · rw [herror] at hrun
      cases hrun

lemma player_switchOff_level {id : AuraId} {slot : Slot} {aura : PlayerAura} {b b' : Board}
    (hfits : AuraFits (outline b) id ⟨slot, .player aura⟩) (hrun : aura.switchOff b = .ok () b')
    (entity : EntityId) (key : String) :
    level b' entity key = level b entity key - grant ⟨slot, .player aura⟩ entity key := by
  obtain ⟨binding, hactive, hevent⟩ := hfits.player aura rfl
  have hgrant : grant ⟨slot, .player aura⟩ entity key =
      if entity = slot.owner then delta aura.change key else 0 := rfl
  rcases player_switchOff_outcome hactive hevent b with
    ⟨-, fault, b₁, herror, -⟩ | ⟨-, b₁, hshift, hrest⟩
  · rw [herror] at hrun
    cases hrun
  · rw [hrest] at hrun
    have hstanding : standing b' = standing b₁ := by
      have hwithin := within_standing_unsubscribe binding.surface binding.event
        binding.listener b₁
      rwa [leftBy_of_ok hrun] at hwithin
    rw [level_eq_of_standing hstanding, hshift.level_eq, hgrant]
    by_cases howner : entity = slot.owner
    · simp only [onTarget, howner, if_true]
      ring
    · simp only [onTarget, Ne.symm howner, howner, if_false]
      ring

lemma switchOff_level {id : AuraId} {active : ActiveAura} {b b' : Board}
    (hfits : AuraFits (outline b) id active) (hsnap : KeepsSnapshot active.aura)
    (hrun : active.aura.switchOff b = .ok () b') {entity : EntityId}
    (hplay : b.contains entity = true) (key : String) :
    level b' entity key = level b entity key - grant active entity key := by
  obtain ⟨slot, aura⟩ := active
  cases aura with
  | minions aura => exact minions_switchOff_level hfits hsnap hrun hplay key
  | player aura => exact player_switchOff_level hfits hrun entity key

lemma switchOn_level {aura aura' : Aura} {slot : Slot} {b b' : Board}
    (h : WellFormed (outline b)) (hrun : aura.switchOn slot b = .ok aura' b') (entity : EntityId)
    (key : String) :
    level b' entity key = level b entity key + grant { slot, aura := aura' } entity key := by
  rcases aura_switchOn_ok hrun with ⟨m, m', rfl, rfl, hm⟩ | ⟨p, p', rfl, rfl, hp⟩
  · obtain ⟨matched, hmatched, rfl, hshift⟩ := minions_switchOn_ok hm
    rw [hshift.level_eq, onTargets_of_nodup (matched_facts h hmatched).1]
    rfl
  · obtain ⟨b₁, surface, c, hshift, -, -, rfl, rfl⟩ := player_switchOn_ok hp
    rw [level_eq_of_standing (standing_subscribed _ _ _ _), hshift.level_eq]
    simp only [onTarget, grant, eq_comm]

/-! ### One operation on the register -/

lemma addAura_base {b : Board} (h : WellFormed (outline b)) (holder : PlayerId)
    (owner : EntityId) (aura : Aura) (entity : EntityId) (key : String) :
    base (leftBy (Board.addAura holder owner aura) b) entity key = base b entity key := by
  cases hrun : Board.addAura holder owner aura b with
  | error fault b' =>
    rw [leftBy_of_error hrun]
    rcases addAura_error hrun with rfl | hshift
    · rfl
    · have hauras : b'.auras = b.auras := auras_eq_of_outline (b := numbered b) hshift.outline_eq
      unfold base
      rw [hshift.level_eq, hauras, add_zero]
      rfl
  | ok id b' =>
    obtain ⟨-, -, aura', b₁, hon, rfl⟩ := addAura_ok hrun
    have hauras : b₁.auras = b.auras := auras_eq_of_outline (b := numbered b) (outline_switchOn hon)
    have hfresh : Table.get? b.auras ⟨b.nextAura⟩ = none := h.aura_fresh le_rfl
    have hlevel := switchOn_level h.number_aura hon entity key
    have hsum := granted_insert b.auras entity key hfresh ⟨nextSlot b holder owner, aura'⟩
    rw [leftBy_of_ok hrun]
    unfold base
    rw [level_eq_of_character? (character?_registered _ _ _), hlevel]
    change _ - granted (Table.insert b₁.auras ⟨b.nextAura⟩ _) entity key = _
    rw [hauras, hsum]
    change level b entity key + _ - _ = _
    ring

lemma removeAura_base {b b' : Board} (h : Sound b) {id : AuraId}
    (hrun : Board.removeAura id b = .ok () b') {entity : EntityId}
    (hplay : b.contains entity = true) (key : String) : base b' entity key = base b entity key := by
  have hauras : b'.auras = Table.erase b.auras id := by
    have houtline := congrArg Outline.auras (outline_removeAura id b)
    rwa [leftBy_of_ok hrun] at houtline
  rw [removeAura_run] at hrun
  cases hget : Table.get? b.auras id with
  | none => simp [hget] at hrun
  | some active =>
    simp only [hget] at hrun
    have hfits : AuraFits (outline (deregistered b id active.slot.holder)) id active := by
      rw [outline_deregistered]
      exact (h.wellFormed.fits id active hget).mono rfl (fun hplay => hplay) le_rfl le_rfl
    have hcharacter := character?_deregistered b id active.slot.holder
    have hplay' : (deregistered b id active.slot.holder).contains entity = true := by
      rw [← character?_isSome, hcharacter, character?_isSome]
      exact hplay
    have hlevel := switchOff_level hfits (h.snapshot id active hget) hrun hplay' key
    have hsum := granted_erase b.auras entity key h.wellFormed.ids_nodup hget
    unfold base
    rw [hlevel, level_eq_of_character? hcharacter, hauras, hsum]
    ring

lemma refreshAura_base {b b' : Board} (h : Sound b) {id : AuraId}
    (hrun : Board.refreshAura id b = .ok () b') {entity : EntityId}
    (hplay : b.contains entity = true) (key : String) : base b' entity key = base b entity key := by
  rcases refreshAura_ok hrun with
    rfl | ⟨slot, aura, b₁, matched, b₂, hget, hoff, hbare, hmatched, hshift, rfl⟩
  · rfl
  · have hfirst := outline_eq_of_bare hbare
    have hauras : b₂.auras = b.auras := auras_eq_of_outline (hshift.outline_eq.trans hfirst)
    have hold : level b₁ entity key =
        level b entity key - grant ⟨slot, .minions aura⟩ entity key :=
      switchOff_level (h.wellFormed.fits id _ hget) (h.snapshot id _ hget) hoff hplay key
    have hwell : WellFormed (outline b₁) := by
      rw [hfirst]
      exact h.wellFormed
    have hnew : level b₂ entity key = level b₁ entity key +
        grant ⟨slot, .minions { aura with active := some (slot, matched) }⟩ entity key := by
      rw [hshift.level_eq, onTargets_of_nodup (matched_facts hwell hmatched).1]
      rfl
    have hsum := granted_modify b.auras entity key
      (fun active => { active with aura := .minions { aura with active := some (slot, matched) } })
      h.wellFormed.ids_nodup hget
    change level b₂ entity key - granted (Table.modify b₂.auras id _) entity key = _
    rw [hauras, hsum, hnew, hold]
    unfold base
    ring

/-! ### One move -/

lemma keepsSnapshot_switchOn {aura aura' : Aura} {slot : Slot} {b b' : Board}
    (h : aura.switchOn slot b = .ok aura' b') (hsnap : KeepsSnapshot aura) :
    KeepsSnapshot aura' := by
  rcases aura_switchOn_ok h with ⟨m, m', rfl, rfl, hm⟩ | ⟨p, p', rfl, rfl, hp⟩
  · obtain ⟨matched, -, rfl, -⟩ := minions_switchOn_ok hm
    exact hsnap
  · exact trivial

lemma sound_step (move : Move) (hfits : move.Fits KeepsSnapshot) (b : Board) (h : Sound b) :
    Sound (leftBy move.run b) := by
  refine ⟨wellFormed_step move b h.wellFormed, fun id active hget => ?_⟩
  rcases registered_step hget with hold | ⟨holder, owner, aura, aura', b₁, rfl, -, hon, rfl⟩ |
    ⟨slot, aura, on, -, hold, rfl⟩
  · exact h.snapshot id active hold
  · exact keepsSnapshot_switchOn hon hfits
  · have hsnap : aura.removal = .snapshot := h.snapshot id _ hold
    exact hsnap

/-- Whether a move writes a stat by itself. -/
def Move.Writes (entity : EntityId) (key : String) : Move → Prop
  | .write entity' key' _ => entity' = entity ∧ key' = key
  | _ => False

/-- Whether a move is not the removal or refresh of an aura that ends in a fault. -/
def Move.Smooth (b : Board) (move : Move) : Prop :=
  match move with
  | .removeAura _ | .refreshAura _ => ∃ b', move.run b = .ok () b'
  | _ => True

lemma number_lt_of_contains {b : Board} (h : WellFormed (outline b)) {entity : EntityId}
    (hplay : b.contains entity = true) : entity.raw < b.nextEntity := by
  rcases (inPlay_outline_iff b entity).mpr hplay with hlt | hsome
  · exact lt_of_lt_of_le hlt h.count_le
  · obtain ⟨player, hplayer⟩ := Option.isSome_iff_exists.mp hsome
    exact (h.numbered entity player hplayer).2

lemma base_eq_of_character? {b b' : Board} {entity : EntityId}
    (hcharacter : b'.character? entity = b.character? entity) (hauras : b'.auras = b.auras)
    (key : String) : base b' entity key = base b entity key := by
  unfold base level Board.stat?
  rw [hcharacter, hauras]

lemma base_withStat (b : Board) {entity entity' : EntityId} {key key' : String} (value : Amount)
    (hother : ¬(entity' = entity ∧ key' = key)) (hplay : b.contains entity = true) :
    base (b.modifyCharacter entity' (·.withStat key' value)) entity key = base b entity key := by
  have hauras : (b.modifyCharacter entity' (·.withStat key' value)).auras = b.auras :=
    auras_eq_of_outline (outline_modifyCharacter _ _ _)
  obtain ⟨c, hc⟩ := Option.isSome_iff_exists.mp ((character?_isSome b entity).trans hplay)
  by_cases he : entity' = entity
  · subst he
    unfold base
    rw [level_withStat b entity' key' value hc, if_neg fun hboth => hother ⟨rfl, hboth.2⟩, hauras]
  · refine base_eq_of_character? ?_ hauras key
    rw [Board.character?_modifyCharacter, if_neg he]

/-- A move changes the base of nothing that stays in play, unless it writes the stat or is a
removal or refresh that fails. -/
theorem base_step {b : Board} (h : Sound b) {move : Move} (hsmooth : move.Smooth b)
    {entity : EntityId} {key : String} (hwrites : ¬move.Writes entity key)
    (hplay : b.contains entity = true) (hplay' : (leftBy move.run b).contains entity = true) :
    base (leftBy move.run b) entity key = base b entity key := by
  by_cases hquiet : move.Quiet
  · have hstanding := standing_quiet hquiet b
    unfold base
    rw [level_eq_of_standing hstanding, auras_eq_of_outline (outline_eq_of_standing hstanding)]
  · cases move with
    | place player spot name attack health =>
      rcases place_step player spot name attack health b with hsame | ⟨index, stats, -, hplaced⟩
      · rw [hsame]
      · have hne : (⟨b.nextEntity⟩ : EntityId) ≠ entity := by
          rintro rfl
          exact lt_irrefl _ (number_lt_of_contains h.wellFormed hplay)
        rw [hplaced]
        exact base_eq_of_character? (character?_placed_of_ne b player index _ hne) rfl key
    | leave id =>
      rcases leave_step id b with hsame | ⟨minion, hminion, -, hdeparted⟩
      · rw [hsame]
      · rw [hdeparted] at hplay' ⊢
        have hne : id ≠ entity := by
          rintro rfl
          rw [← character?_isSome, character?_departed_self b _
            (playerCount_le_of_minion? h.wellFormed hminion)] at hplay'
          cases hplay'
        exact base_eq_of_character? (character?_departed_of_ne b _ hne) rfl key
    | write entity' key' f =>
      rcases write_step entity' key' f b with hsame | ⟨value, hwritten⟩
      · rw [hsame]
      · rw [hwritten]
        exact base_withStat b value hwrites hplay
    | addAura holder owner aura =>
      simp only [Move.run, leftBy_discard]
      exact addAura_base h.wellFormed holder owner aura entity key
    | removeAura id =>
      obtain ⟨b', hrun⟩ := hsmooth
      rw [leftBy_of_ok hrun]
      exact removeAura_base h hrun hplay key
    | refreshAura id =>
      obtain ⟨b', hrun⟩ := hsmooth
      rw [leftBy_of_ok hrun]
      exact refreshAura_base h hrun hplay key
    | _ => exact absurd trivial hquiet

/-! ### Later histories -/

lemma presence_step (move : Move) (b : Board) {entity : EntityId}
    (hlt : entity.raw < b.nextEntity) :
    b.nextEntity ≤ (leftBy move.run b).nextEntity ∧
      ((leftBy move.run b).contains entity = true → b.contains entity = true) := by
  rcases seating_cases move b with
    hseating | ⟨player, index, minion, -, -, hplaced⟩ | ⟨leaver, minion, hminion, hdeparted⟩
  · have hnext : (leftBy move.run b).nextEntity = b.nextEntity := congrArg (·.2.2) hseating
    rw [hnext, contains_eq_of_seating hseating]
    exact ⟨le_rfl, id⟩
  · -- Who comes in has a number that nobody had.
    have hne : (⟨b.nextEntity⟩ : EntityId) ≠ entity := by
      rintro rfl
      exact lt_irrefl _ hlt
    rw [hplaced, ← character?_isSome, ← character?_isSome,
      character?_placed_of_ne b player index _ hne]
    exact ⟨Nat.le_succ _, id⟩
  · rw [hdeparted]
    refine ⟨le_rfl, fun hafter => ?_⟩
    by_cases hne : leaver = entity
    · subst hne
      simp [Board.contains, Board.isMinion, hminion]
    · rwa [← character?_isSome, character?_departed_of_ne b _ hne, character?_isSome] at hafter

lemma contains_of_play {b : Board} {entity : EntityId} (hlt : entity.raw < b.nextEntity)
    {moves : List Move} (hafter : (play b moves).contains entity = true) :
    b.contains entity = true := by
  induction moves generalizing b with
  | nil => exact hafter
  | cons move moves ih =>
    obtain ⟨hle, hback⟩ := presence_step move b hlt
    exact hback (ih (lt_of_lt_of_le hlt hle) hafter)

/-- Whether no removal or refresh of an aura fails in a history from a board on. -/
def SmoothRun : Board → List Move → Prop
  | _, [] => True
  | b, move :: moves => move.Smooth b ∧ SmoothRun (leftBy move.run b) moves

/-- Over any history without failing removals and refreshes, the base of a stat that is not written
is the same at the end, for all that stay in play. -/
theorem base_play {b : Board} (h : Sound b) {moves : List Move}
    (hfits : ∀ move ∈ moves, Move.Fits KeepsSnapshot move) (hsmooth : SmoothRun b moves)
    {entity : EntityId} {key : String} (hwrites : ∀ move ∈ moves, ¬move.Writes entity key)
    (hplay : b.contains entity = true) (hplay' : (play b moves).contains entity = true) :
    base (play b moves) entity key = base b entity key := by
  induction moves generalizing b with
  | nil => rfl
  | cons move moves ih =>
    have hlt := number_lt_of_contains h.wellFormed hplay
    have hnext : (leftBy move.run b).contains entity = true :=
      contains_of_play (lt_of_lt_of_le hlt (presence_step move b hlt).1) hplay'
    have hsound := sound_step move (hfits move (by simp)) b h
    have hrest := ih hsound (fun m hm => hfits m (by simp [hm])) hsmooth.2
      (fun m hm => hwrites m (by simp [hm])) hnext hplay'
    rw [play_cons, hrest]
    exact base_step h hsmooth.1 (hwrites move (by simp)) hplay hnext

/-! ### Operations -/

/-- A board on which everybody is still in play and every base is as it was. -/
structure Kept (b b' : Board) : Prop where
  sound : Sound b'
  contains_eq : b'.contains = b.contains
  base_eq : ∀ entity, b.contains entity = true → ∀ key, base b' entity key = base b entity key

lemma Kept.trans {b b' b'' : Board} (h : Kept b b') (h' : Kept b' b'') : Kept b b'' where
  sound := h'.sound
  contains_eq := h'.contains_eq.trans h.contains_eq
  base_eq entity hplay key := by
    rw [h'.base_eq entity (by rwa [h.contains_eq]), h.base_eq entity hplay]

lemma kept_refl {b : Board} (h : Sound b) : Kept b b :=
  ⟨h, rfl, fun _ _ _ => rfl⟩

lemma kept_of_standing {b b' : Board} (h : Sound b) (hstanding : standing b' = standing b) :
    Kept b b' := by
  have houtline := outline_eq_of_standing hstanding
  have hauras : b'.auras = b.auras := auras_eq_of_outline houtline
  refine ⟨⟨by rw [houtline]; exact h.wellFormed, by rw [hauras]; exact h.snapshot⟩,
    funext (contains_eq_of_outline houtline), fun entity _ key => ?_⟩
  unfold base
  rw [level_eq_of_standing hstanding, hauras]

lemma removeAura_kept {b b' : Board} (h : Sound b) {id : AuraId}
    (hrun : Board.removeAura id b = .ok () b') : Kept b b' := by
  have hleft : leftBy (Move.removeAura id).run b = b' := leftBy_of_ok hrun
  refine ⟨?_, ?_, fun entity hplay key => removeAura_base h hrun hplay key⟩
  · rw [← hleft]
    exact sound_step (.removeAura id) trivial b h
  · rw [← hleft]
    exact contains_eq_of_seating (seating_step (.removeAura id) trivial b)

lemma refreshAura_kept {b b' : Board} (h : Sound b) {id : AuraId}
    (hrun : Board.refreshAura id b = .ok () b') : Kept b b' := by
  have hleft : leftBy (Move.refreshAura id).run b = b' := leftBy_of_ok hrun
  refine ⟨?_, ?_, fun entity hplay key => refreshAura_base h hrun hplay key⟩
  · rw [← hleft]
    exact sound_step (.refreshAura id) trivial b h
  · rw [← hleft]
    exact contains_eq_of_seating (seating_step (.refreshAura id) trivial b)

lemma removeAuras_kept {ids : List AuraId} {b b' : Board} (h : Sound b)
    (hrun : Board.removeAuras ids b = .ok () b') : Kept b b' := by
  induction ids generalizing b with
  | nil =>
    cases hrun
    exact kept_refl h
  | cons id ids ih =>
    obtain ⟨b₁, hfirst, hrest⟩ := removeAuras_cons_ok hrun
    have hkept := removeAura_kept h hfirst
    exact hkept.trans (ih hkept.sound hrest)

lemma refreshEach_kept {ids : List AuraId} {b b' : Board} (h : Sound b)
    (hrun : Board.refreshEach ids b = .ok () b') : Kept b b' := by
  induction ids generalizing b with
  | nil =>
    cases hrun
    exact kept_refl h
  | cons id ids ih =>
    obtain ⟨_, b₁, hfirst, hrest⟩ := bind_ok hrun
    have hkept := refreshAura_kept h hfirst
    exact hkept.trans (ih hkept.sound hrest)

lemma removeMinion_keepsBase {id : EntityId} {minion : Minion} {b b' : Board} (h : Sound b)
    (hrun : Board.removeMinion id b = .ok minion b') : KeepsBase b b' := by
  obtain ⟨-, count, b₁, b₂, hdetach, hremove, hleave, -⟩ := removeMinion_ok hrun
  have hstanding := within_standing_detachEffects id b
  rw [leftBy_of_ok hdetach] at hstanding
  have hfirst := kept_of_standing h hstanding
  have hkept := hfirst.trans (removeAuras_kept hfirst.sound hremove)
  have hleft : leftBy (Move.leave id).run b₂ = b' := by
    rw [leftBy_leave, if_pos (aurasOwnedBy_removeAuras hremove), leftBy_of_ok hleave]
  intro entity hplay hplay' key
  have hplay₂ : b₂.contains entity = true := by rwa [hkept.contains_eq]
  rw [← hkept.base_eq entity hplay key, ← hleft]
  have hsmooth : (Move.leave id).Smooth b₂ := trivial
  exact base_step hkept.sound hsmooth not_false hplay₂ (by rwa [hleft])

lemma endAura_kept {listener : ListenerId} {id : AuraId} {b b' : Board} (h : Sound b)
    (hrun : Game.endAura listener id b = .ok () b') : Kept b b' := by
  rw [endAura_run] at hrun
  split at hrun
  · cases hrun
    exact kept_refl h
  · have hspent : Kept b { b with spent := listener :: b.spent } := kept_of_standing h rfl
    exact hspent.trans (removeAura_kept hspent.sound hrun)

lemma Kept.keepsBase {b b' : Board} (h : Kept b b') : KeepsBase b b' :=
  fun entity hplay _ key => h.base_eq entity hplay key

lemma sound_play {settings : Settings} {start : Board} (hnew : Board.new settings = .ok start)
    {moves : List Move} (hfits : ∀ move ∈ moves, Move.Fits KeepsSnapshot move) :
    Sound (play start moves) := by
  refine play_preserves sound_step ⟨wellFormed_new hnew, fun id active hget => ?_⟩ hfits
  obtain ⟨players, rfl, -⟩ := new_eq hnew
  cases hget

/-- The accounts of auras balance. At every moment of a history whose minion auras are taken back
from those they were put on: adding an aura keeps every base, whether or not it succeeds; so does
each removal, refresh and ending of auras and each removal of a minion that succeeds, for all that
stay in play; and over any later history without failing removals and refreshes the base of a stat
only changes when the stat is written. -/
theorem auras_accounted {settings : Settings} {start : Board}
    (hnew : Board.new settings = .ok start) {moves : List Move}
    (hfits : ∀ move ∈ moves, Move.Fits KeepsSnapshot move) {board : Board}
    (hboard : board = play start moves) :
    (∀ holder owner aura, KeepsBase board (leftBy (Board.addAura holder owner aura) board)) ∧
    (∀ id b', Board.removeAura id board = .ok () b' → KeepsBase board b') ∧
    (∀ b', Board.refreshAuras board = .ok () b' → KeepsBase board b') ∧
    (∀ id minion b', Board.removeMinion id board = .ok minion b' → KeepsBase board b') ∧
    (∀ listener id b', Game.endAura listener id board = .ok () b' → KeepsBase board b') ∧
    ∀ later, (∀ move ∈ later, Move.Fits KeepsSnapshot move) → SmoothRun board later →
      ∀ entity key, board.contains entity = true → (play board later).contains entity = true →
        (∀ move ∈ later, ¬Move.Writes entity key move) →
          base (play board later) entity key = base board entity key := by
  have hsound : Sound board := by
    rw [hboard]
    exact sound_play hnew hfits
  refine ⟨?_, ?_, ?_, ?_, ?_, ?_⟩
  · intro holder owner aura entity _ _ key
    exact addAura_base hsound.wellFormed holder owner aura entity key
  · intro id b' hrun
    exact (removeAura_kept hsound hrun).keepsBase
  · intro b' hrun
    exact (refreshEach_kept hsound hrun).keepsBase
  · intro id minion b' hrun
    exact removeMinion_keepsBase hsound hrun
  · intro listener id b' hrun
    exact (endAura_kept hsound hrun).keepsBase
  · intro later hfits' hsmooth entity key hplay hplay' hwrites
    exact base_play hsound hfits' hsmooth hwrites hplay hplay'

/-- A recruit beside a hero whose banner adds one to its attack. -/
def bannerMoves : List Move :=
  [.place ⟨0⟩ none "Recruit" .one .one,
    .addAura ⟨0⟩ ⟨0⟩ (.minions { change := .attack .one, selector := .minion })]

theorem banner_accounted :
    ∃ start b', Board.new Settings.standard = .ok start ∧
      level (play start bannerMoves) ⟨2⟩ Stat.attack = 2 ∧
      Board.removeAura ⟨0⟩ (play start bannerMoves) = .ok () b' ∧
      KeepsBase (play start bannerMoves) b' := by
  have hfits : ∀ move ∈ bannerMoves, Move.Fits KeepsSnapshot move := by
    simp [bannerMoves, Move.Fits, KeepsSnapshot]
  refine ⟨_, _, rfl, by decide, rfl, ?_⟩
  have hnew : Board.new Settings.standard = .ok _ := rfl
  exact (auras_accounted hnew hfits rfl).2.1 ⟨0⟩ _ rfl

end CardEffects.Proofs
