import CardEffects.Proofs.Steps
import Mathlib.Data.List.Induction
import Mathlib.Data.List.InsertIdx
import Mathlib.Data.List.Nodup

/-!
# Well-formed outlines

What every history keeps of who is in play and which auras are registered: no minion stands twice
on a side or on two sides, no number is used twice, and the register agrees with its auras about
where they are on.
-/

namespace CardEffects.Proofs

/-- Whether a number is that of a minion that is or was in play. -/
def Outline.Numbered (o : Outline) (entity : EntityId) : Prop :=
  o.sides.length ≤ entity.raw ∧ entity.raw < o.nextEntity

/-- Whether a registered aura fits in with an outline. A minion aura may be off; when it is on, it
is on for its own slot and affects each minion once. A player aura is on. -/
structure AuraFits (o : Outline) (id : AuraId) (active : ActiveAura) : Prop where
  id_eq : active.slot.id = id
  id_lt : id.raw < o.nextAura
  owner_inPlay : o.InPlay active.slot.owner
  minions : ∀ aura slot affected, active.aura = .minions aura →
    aura.active = some (slot, affected) →
      slot = active.slot ∧ affected.Nodup ∧ ∀ e ∈ affected, o.Numbered e
  player : ∀ aura, active.aura = .player aura →
    ∃ binding, aura.active = some (active.slot, binding) ∧ binding.event = aura.ending.name

/-- What every history keeps of an outline. -/
structure WellFormed (o : Outline) : Prop where
  sides_nodup : ∀ side ∈ o.sides, side.Nodup
  controller_of_mem : ∀ i side e, o.sides[i]? = some side → e ∈ side →
    Table.get? o.controllers e = some ⟨i⟩
  numbered : ∀ e player, Table.get? o.controllers e = some player → o.Numbered e
  count_le : o.sides.length ≤ o.nextEntity
  ids_nodup : (Table.keys o.auras).Nodup
  fits : ∀ id active, Table.get? o.auras id = some active → AuraFits o id active

lemma AuraFits.mono {o o' : Outline} {id : AuraId} {active : ActiveAura} (h : AuraFits o id active)
    (hcount : o'.sides.length = o.sides.length)
    (hplay : o.InPlay active.slot.owner → o'.InPlay active.slot.owner)
    (hentity : o.nextEntity ≤ o'.nextEntity) (haura : o.nextAura ≤ o'.nextAura) :
    AuraFits o' id active where
  id_eq := h.id_eq
  id_lt := lt_of_lt_of_le h.id_lt haura
  owner_inPlay := hplay h.owner_inPlay
  minions aura slot affected haura hactive := by
    obtain ⟨hslot, hnodup, hnumbered⟩ := h.minions aura slot affected haura hactive
    refine ⟨hslot, hnodup, fun e he => ?_⟩
    obtain ⟨hle, hlt⟩ := hnumbered e he
    exact ⟨by rw [hcount]; exact hle, lt_of_lt_of_le hlt hentity⟩
  player := h.player

/-! ### Changes of the register -/

section Register

variable {o : Outline} (h : WellFormed o)

include h

lemma WellFormed.withAuras {auras : Table AuraId ActiveAura} {nextAura : Nat}
    (hnodup : (Table.keys auras).Nodup)
    (hfits : ∀ id active, Table.get? auras id = some active →
      AuraFits { o with auras, nextAura } id active) :
    WellFormed { o with auras, nextAura } where
  sides_nodup := h.sides_nodup
  controller_of_mem := h.controller_of_mem
  numbered := h.numbered
  count_le := h.count_le
  ids_nodup := hnodup
  fits := hfits

lemma WellFormed.erase_aura (id : AuraId) :
    WellFormed { o with auras := Table.erase o.auras id } := by
  refine h.withAuras ?_ fun id' active hget => ?_
  · exact nodup_keys_erase h.ids_nodup id
  · by_cases hid : id = id'
    · subst hid
      rw [Table.get?_erase_self] at hget
      cases hget
    · rw [Table.get?_erase_of_ne _ hid] at hget
      exact (h.fits id' active hget).mono rfl (fun hplay => hplay) le_rfl le_rfl

lemma WellFormed.modify_aura (id : AuraId) {f : ActiveAura → ActiveAura}
    (hfits : ∀ active, Table.get? o.auras id = some active → AuraFits o id (f active)) :
    WellFormed { o with auras := Table.modify o.auras id f } := by
  refine h.withAuras ?_ fun id' active hget => ?_
  · rw [Table.keys_modify]
    exact h.ids_nodup
  · by_cases hid : id = id'
    · subst hid
      rw [Table.get?_modify_self] at hget
      obtain ⟨old, hold, rfl⟩ := Option.map_eq_some_iff.mp hget
      exact (hfits old hold).mono rfl (fun hplay => hplay) le_rfl le_rfl
    · rw [Table.get?_modify_of_ne _ _ hid] at hget
      exact (h.fits id' active hget).mono rfl (fun hplay => hplay) le_rfl le_rfl

lemma WellFormed.number_aura : WellFormed { o with nextAura := o.nextAura + 1 } :=
  h.withAuras h.ids_nodup fun id active hget =>
    (h.fits id active hget).mono rfl (fun hplay => hplay) le_rfl (Nat.le_succ _)

lemma WellFormed.aura_fresh {id : AuraId} (hid : o.nextAura ≤ id.raw) :
    Table.get? o.auras id = none := by
  cases hget : Table.get? o.auras id with
  | none => rfl
  | some active =>
    have := (h.fits id active hget).id_lt
    omega

lemma WellFormed.insert_aura {active : ActiveAura}
    (hfits : AuraFits { o with nextAura := o.nextAura + 1 } ⟨o.nextAura⟩ active) :
    WellFormed { o with
      auras := Table.insert o.auras ⟨o.nextAura⟩ active, nextAura := o.nextAura + 1 } := by
  refine h.withAuras ?_ fun id active' hget => ?_
  · exact nodup_keys_insert h.ids_nodup _ _
  · by_cases hid : (⟨o.nextAura⟩ : AuraId) = id
    · subst hid
      rw [Table.get?_insert_self] at hget
      cases hget
      exact hfits.mono rfl (fun hplay => hplay) le_rfl le_rfl
    · rw [Table.get?_insert_of_ne _ _ hid] at hget
      exact (h.fits id active' hget).mono rfl (fun hplay => hplay) le_rfl (Nat.le_succ _)

end Register

/-! ### Minions that come and go -/

section Minions

variable {o : Outline} (h : WellFormed o)

include h

lemma WellFormed.place_minion (i spot : Nat) :
    WellFormed { o with
      sides := o.sides.modify i fun side => side.insertIdx spot ⟨o.nextEntity⟩
      controllers := Table.insert o.controllers ⟨o.nextEntity⟩ ⟨i⟩
      nextEntity := o.nextEntity + 1 } := by
  have hfresh : ∀ (j : Nat) (side : List EntityId), o.sides[j]? = some side →
      (⟨o.nextEntity⟩ : EntityId) ∉ side := by
    intro j side hside hmem
    have hlt := (h.numbered _ _ (h.controller_of_mem j side _ hside hmem)).2
    exact lt_irrefl _ hlt
  have hother : ∀ e player, Table.get? o.controllers e = some player →
      Table.get? (Table.insert o.controllers ⟨o.nextEntity⟩ ⟨i⟩) e = some player := by
    intro e player hget
    have hne : (⟨o.nextEntity⟩ : EntityId) ≠ e := by
      rintro rfl
      exact lt_irrefl _ (h.numbered _ _ hget).2
    rw [Table.get?_insert_of_ne _ _ hne]
    exact hget
  refine ⟨?_, ?_, ?_, ?_, h.ids_nodup, ?_⟩
  · intro side hside
    obtain ⟨j, hj⟩ := List.mem_iff_getElem?.mp hside
    rw [List.getElem?_modify] at hj
    obtain ⟨old, hold, rfl⟩ := Option.map_eq_some_iff.mp hj
    have hnodup := h.sides_nodup old (List.mem_of_getElem? hold)
    by_cases hij : i = j
    · simp only [hij, if_true]
      by_cases hspot : spot ≤ old.length
      · rw [(List.perm_insertIdx _ _ hspot).nodup_iff, List.nodup_cons]
        exact ⟨hfresh j old hold, hnodup⟩
      · rwa [List.insertIdx_of_length_lt (by omega)]
    · simpa [hij] using hnodup
  · intro j side e hside he
    rw [List.getElem?_modify] at hside
    obtain ⟨old, hold, rfl⟩ := Option.map_eq_some_iff.mp hside
    by_cases hij : i = j
    · subst hij
      simp only [if_true] at he
      rcases List.eq_or_mem_of_mem_insertIdx he with rfl | he
      · exact Table.get?_insert_self _ _ _
      · exact hother e _ (h.controller_of_mem i old e hold he)
    · exact hother e _ (h.controller_of_mem j old e hold (by simpa [hij] using he))
  · intro e player hget
    have hcount := h.count_le
    by_cases he : (⟨o.nextEntity⟩ : EntityId) = e
    · subst he
      simp [Outline.Numbered, hcount]
    · rw [Table.get?_insert_of_ne _ _ he] at hget
      obtain ⟨hle, hlt⟩ := h.numbered e player hget
      exact ⟨by simpa using hle, Nat.lt_succ_of_lt hlt⟩
  · simpa using Nat.le_succ_of_le h.count_le
  · intro id active hget
    refine (h.fits id active hget).mono (by simp) ?_ (Nat.le_succ _) le_rfl
    rintro (hlt | hsome)
    · exact .inl (by simpa using hlt)
    · obtain ⟨player, hplayer⟩ := Option.isSome_iff_exists.mp hsome
      exact .inr (by rw [hother _ _ hplayer]; rfl)

lemma WellFormed.leave_minion {id : EntityId} {player : PlayerId}
    (hid : Table.get? o.controllers id = some player)
    (howns : ∀ aura active, Table.get? o.auras aura = some active → active.slot.owner ≠ id) :
    WellFormed { o with
      sides := o.sides.modify player.index fun side => side.erase id
      controllers := Table.erase o.controllers id } := by
  refine ⟨?_, ?_, ?_, by simpa using h.count_le, h.ids_nodup, ?_⟩
  · intro side hside
    obtain ⟨j, hj⟩ := List.mem_iff_getElem?.mp hside
    rw [List.getElem?_modify] at hj
    obtain ⟨old, hold, rfl⟩ := Option.map_eq_some_iff.mp hj
    have hnodup := h.sides_nodup old (List.mem_of_getElem? hold)
    by_cases hij : player.index = j
    · simpa [hij] using hnodup.erase id
    · simpa [hij] using hnodup
  · intro j side e hside he
    rw [List.getElem?_modify] at hside
    obtain ⟨old, hold, rfl⟩ := Option.map_eq_some_iff.mp hside
    have hnodup := h.sides_nodup old (List.mem_of_getElem? hold)
    have hmem : e ∈ old := by
      by_cases hij : player.index = j
      · simp only [hij, if_true] at he
        exact List.mem_of_mem_erase he
      · simpa [hij] using he
    have hcontroller := h.controller_of_mem j old e hold hmem
    have hne : id ≠ e := by
      rintro rfl
      rw [hid] at hcontroller
      cases hcontroller
      simp only [if_true] at he
      exact (hnodup.mem_erase_iff.mp he).1 rfl
    rw [Table.get?_erase_of_ne _ hne]
    exact hcontroller
  · intro e p hget
    by_cases he : id = e
    · subst he
      rw [Table.get?_erase_self] at hget
      cases hget
    · rw [Table.get?_erase_of_ne _ he] at hget
      simpa [Outline.Numbered] using h.numbered e p hget
  · intro aura active hget
    refine (h.fits aura active hget).mono (by simp) ?_ le_rfl le_rfl
    rintro (hlt | hsome)
    · exact .inl (by simpa using hlt)
    · refine .inr ?_
      rw [Table.get?_erase_of_ne _ (howns aura active hget).symm]
      exact hsome

end Minions

/-! ### What auras pick -/

lemma select_sublist (selector : Selector) (board : Board) (source : EntityId)
    (candidates : List EntityId) :
    (selector.select board source candidates).Sublist candidates := by
  cases selector with
  | hasLowestHealth =>
    unfold Selector.select
    cases (Selector.healths board candidates).min? with
    | none => exact List.nil_sublist _
    | some lowest => exact List.filter_sublist
  | _ => exact List.filter_sublist

lemma controller_of_mem_minionsOf {b : Board} (h : WellFormed (outline b)) {player : PlayerId}
    {e : EntityId} (he : e ∈ b.minionsOf player) :
    (b.minion? e).map (·.controller) = some player := by
  unfold Board.minionsOf at he
  cases hplayer : b.players.get? player with
  | none => simp [hplayer] at he
  | some seat =>
    have hside : (outline b).sides[player.index]? = some seat.minions := by
      simp only [PerPlayer.get?] at hplayer
      simp [outline, hplayer]
    have hcontroller := h.controller_of_mem _ _ e hside (by simpa [hplayer] using he)
    rwa [controllers_outline] at hcontroller

lemma minionsOf_nodup {b : Board} (h : WellFormed (outline b)) (player : PlayerId) :
    (b.minionsOf player).Nodup := by
  unfold Board.minionsOf
  cases hplayer : b.players.get? player with
  | none => simp
  | some seat =>
    refine h.sides_nodup seat.minions ?_
    have hmem :=
      List.mem_of_getElem? (show b.players.values[player.index]? = some seat from hplayer)
    exact List.mem_map_of_mem hmem

lemma numbered_of_isMinion {b : Board} (h : WellFormed (outline b)) {e : EntityId}
    (he : b.isMinion e = true) : (outline b).Numbered e := by
  obtain ⟨m, hm⟩ := Option.isSome_iff_exists.mp he
  refine h.numbered e m.controller ?_
  rw [controllers_outline, hm]
  rfl

lemma playerCount_le_of_minion? {b : Board} (h : WellFormed (outline b)) {id : EntityId}
    {minion : Minion} (hminion : b.minion? id = some minion) : b.playerCount ≤ id.raw := by
  have hnumbered := numbered_of_isMinion h (show b.isMinion id = true by
    simp [Board.isMinion, hminion])
  exact (count_outline b).ge.trans hnumbered.1

lemma playerCount_le_nextEntity {b : Board} (h : WellFormed (outline b)) :
    b.playerCount ≤ b.nextEntity :=
  (count_outline b).ge.trans h.count_le

lemma matched_facts {b : Board} (h : WellFormed (outline b)) {aura : MinionAura}
    {owner : EntityId} {matched : List EntityId} (hmatched : aura.matched b owner = .ok matched) :
    matched.Nodup ∧ ∀ e ∈ matched, b.isMinion e = true := by
  unfold MinionAura.matched Coverage.minions at hmatched
  cases hcontroller : b.controller? owner with
  | none => simp [hcontroller, Except.map] at hmatched
  | some controller =>
    simp only [hcontroller, Except.map, Except.ok.injEq] at hmatched
    subst hmatched
    refine ⟨List.Nodup.sublist (select_sublist _ _ _ _) ?_, fun e he => ?_⟩
    · refine List.nodup_flatMap.mpr ⟨fun player _ => minionsOf_nodup h player, ?_⟩
      have hseats : ((PlayerId.all b.playerCount).filter
          (aura.players.covers controller)).Nodup := by
        refine (List.Nodup.map ?_ List.nodup_range).filter _
        intro i j hij
        exact congrArg PlayerId.index hij
      refine hseats.imp fun {player player'} hne e he he' => hne ?_
      have hfirst := controller_of_mem_minionsOf h he
      rw [controller_of_mem_minionsOf h he'] at hfirst
      exact (Option.some.inj hfirst).symm
    · have hmem := (select_sublist _ _ _ _).mem he
      obtain ⟨player, -, hplayer⟩ := List.mem_flatMap.mp hmem
      have hsome := controller_of_mem_minionsOf h hplayer
      unfold Board.isMinion
      cases hm : b.minion? e with
      | none => simp [hm] at hsome
      | some m => rfl

/-! ### Histories -/

lemma mem_aurasOwnedBy {b : Board} {id : AuraId} {active : ActiveAura}
    (h : Table.get? b.auras id = some active) : id ∈ b.aurasOwnedBy active.slot.owner := by
  unfold Board.aurasOwnedBy
  rw [List.mem_mergeSort]
  exact List.mem_map_of_mem (List.mem_filter.mpr ⟨mem_of_get? h, by simp⟩)

lemma owner_ne_of_owns_nothing {b : Board} {owner : EntityId} {id : AuraId} {active : ActiveAura}
    (h : b.aurasOwnedBy owner = []) (hget : Table.get? b.auras id = some active) :
    active.slot.owner ≠ owner := by
  rintro rfl
  have hmem := mem_aurasOwnedBy hget
  rw [h] at hmem
  exact List.not_mem_nil hmem

lemma fits_of_switchOn {aura aura' : Aura} {slot : Slot} {b b' : Board}
    (h : WellFormed (outline b)) (hon : aura.switchOn slot b = .ok aura' b')
    (hid : slot.id.raw < b.nextAura) (howner : b.contains slot.owner = true) :
    AuraFits (outline b) slot.id { slot, aura := aura' } := by
  have hplay := (inPlay_outline_iff b slot.owner).mpr howner
  rcases aura_switchOn_ok hon with ⟨m, m', rfl, rfl, hm⟩ | ⟨p, p', rfl, rfl, hp⟩
  · obtain ⟨matched, hmatched, rfl, -⟩ := minions_switchOn_ok hm
    obtain ⟨hnodup, hminions⟩ := matched_facts h hmatched
    refine ⟨rfl, hid, hplay, ?_, by simp⟩
    rintro aura slot' affected haura hactive
    cases haura
    cases hactive
    exact ⟨rfl, hnodup, fun e he => numbered_of_isMinion h (hminions e he)⟩
  · obtain ⟨b₁, surface, c, -, -, -, rfl, -⟩ := player_switchOn_ok hp
    refine ⟨rfl, hid, hplay, by simp, ?_⟩
    rintro aura haura
    cases haura
    exact ⟨_, rfl, rfl⟩

lemma wellFormed_addAura (holder : PlayerId) (owner : EntityId) (aura : Aura) {b : Board}
    (h : WellFormed (outline b)) :
    WellFormed (outline (leftBy (Move.addAura holder owner aura).run b)) := by
  have hnumbered : WellFormed (outline (numbered b)) := h.number_aura
  rcases addAura_step holder owner aura b with hsame | hnumber | ⟨aura', b₁, howner, hon, hadded⟩
  · rwa [hsame]
  · rwa [hnumber]
  · rw [hadded]
    exact h.insert_aura (fits_of_switchOn hnumbered hon (Nat.lt_succ_self _) howner)

lemma wellFormed_refreshAura (id : AuraId) {b : Board} (h : WellFormed (outline b)) :
    WellFormed (outline (leftBy (Board.refreshAura id) b)) := by
  cases hrun : Board.refreshAura id b with
  | error fault b' =>
    obtain ⟨slot, aura, b₁, hget, hbare, rfl⟩ := refreshAura_error hrun
    have houtline := outline_eq_of_bare hbare
    have hauras : b₁.auras = b.auras := auras_eq_of_outline houtline
    rw [leftBy_of_error hrun, outline_replaced, houtline, hauras]
    refine h.modify_aura id fun active hactive => ?_
    have hold := h.fits id active hactive
    refine ⟨hold.id_eq, hold.id_lt, hold.owner_inPlay, ?_, by simp⟩
    rintro aura slot affected haura hoff
    cases haura
    cases hoff
  | ok _ b' =>
    rw [leftBy_of_ok hrun]
    rcases refreshAura_ok hrun with
      rfl | ⟨slot, aura, b₁, matched, b₂, hget, -, hbare, hmatched, hshift, rfl⟩
    · exact h
    · have hfirst := outline_eq_of_bare hbare
      have houtline : outline b₂ = outline b := hshift.outline_eq.trans hfirst
      have hauras : b₂.auras = b.auras := auras_eq_of_outline houtline
      rw [outline_replaced, houtline, hauras]
      refine h.modify_aura id fun active hactive => ?_
      obtain rfl := Option.some.inj (hget.symm.trans hactive)
      have hold := h.fits id _ hget
      obtain ⟨hnodup, hminions⟩ := matched_facts (by rwa [hfirst]) hmatched
      refine ⟨hold.id_eq, hold.id_lt, hold.owner_inPlay, ?_, by simp⟩
      rintro aura' slot' affected haura hon
      cases haura
      cases hon
      refine ⟨rfl, hnodup, fun e he => ?_⟩
      rw [← hfirst]
      exact numbered_of_isMinion (by rwa [hfirst]) (hminions e he)

theorem wellFormed_step (move : Move) (b : Board) (h : WellFormed (outline b)) :
    WellFormed (outline (leftBy move.run b)) := by
  by_cases hquiet : move.Quiet
  · rwa [outline_eq_of_standing (standing_quiet hquiet b)]
  · cases move with
    | place player spot name attack health =>
      rcases place_step player spot name attack health b with hsame | ⟨index, stats, -, hplaced⟩
      · rwa [hsame]
      · rw [hplaced, outline_placed]
        exact h.place_minion player.index index
    | leave id =>
      rcases leave_step id b with hsame | ⟨minion, hminion, howns, hdeparted⟩
      · rwa [hsame]
      · rw [hdeparted, outline_departed]
        refine h.leave_minion ?_ fun aura active hget howner => ?_
        · rw [controllers_outline, hminion]
          rfl
        · exact owner_ne_of_owns_nothing howns hget howner
    | write entity key f =>
      rcases write_step entity key f b with hsame | ⟨value, hwritten⟩
      · rwa [hsame]
      · rwa [hwritten, outline_modifyCharacter]
    | addAura holder owner aura => exact wellFormed_addAura holder owner aura h
    | removeAura id =>
      rw [Move.run, outline_removeAura]
      exact h.erase_aura id
    | refreshAura id => exact wellFormed_refreshAura id h
    | _ => exact absurd trivial hquiet

lemma new_eq {settings : Settings} {b : Board} (h : Board.new settings = .ok b) :
    ∃ players, b = { settings, players, nextEntity := EntityId.firstMinion settings.playerCount } ∧
      players.values = (PlayerId.all settings.playerCount).map (fun _ =>
        { hero := Board.newHero settings.heroHealth }) ∧ settings.playerCount ≤ 255 := by
  unfold Board.new PerPlayer.new checkPlayerCount at h
  by_cases hzero : settings.playerCount = 0
  · simp [hzero, bind, Except.bind] at h
  · by_cases hmany : 255 < settings.playerCount
    · simp [hzero, hmany, bind, Except.bind] at h
    · simp only [hzero, hmany, if_false, bind, Except.bind, pure, Except.pure,
        Except.ok.injEq] at h
      exact ⟨_, h.symm, rfl, by omega⟩

lemma playerCount_pos_of_new {settings : Settings} {b : Board} (h : Board.new settings = .ok b) :
    0 < settings.playerCount := by
  by_contra hzero
  have hnone : settings.playerCount = 0 := by omega
  unfold Board.new PerPlayer.new checkPlayerCount at h
  simp [hnone, bind, Except.bind] at h

theorem wellFormed_new {settings : Settings} {b : Board} (h : Board.new settings = .ok b) :
    WellFormed (outline b) := by
  obtain ⟨players, rfl, hvalues, hcount⟩ := new_eq h
  have hsides : ∀ side ∈ players.values.map (·.minions), side = [] := by
    intro side hside
    rw [hvalues, List.map_map] at hside
    obtain ⟨_, -, rfl⟩ := List.mem_map.mp hside
    rfl
  refine ⟨?_, ?_, by simp [outline], ?_, by simp [outline, Table.keys], by simp [outline]⟩
  · intro side hside
    rw [hsides side hside]
    exact List.nodup_nil
  · intro i side e hside he
    rw [hsides side (List.mem_of_getElem? hside)] at he
    exact absurd he List.not_mem_nil
  · have hmod : settings.playerCount % 4294967296 = settings.playerCount :=
      Nat.mod_eq_of_lt (by omega)
    simp only [outline, List.length_map, hvalues, PlayerId.all, List.length_range,
      EntityId.firstMinion, hmod]
    exact Nat.mod_le _ _

/-- At every moment of every history the outline is well-formed. -/
theorem wellFormed_play {settings : Settings} {start : Board} (h : Board.new settings = .ok start)
    (moves : List Move) : WellFormed (outline (play start moves)) :=
  play_preserves (P := fun b => WellFormed (outline b)) (Q := fun _ => True)
    (fun move _ b hb => wellFormed_step move b hb) (wellFormed_new h) fun _ _ => trivial

lemma lt_nextAura_of_occurs {settings : Settings} {start : Board}
    (hnew : Board.new settings = .ok start) {P : Board → Move → Prop} {id : AuraId}
    (hP : ∀ b move, P b move → ∃ active, Table.get? b.auras id = some active) {moves : List Move}
    (h : Occurs P start moves) : id.raw < (play start moves).nextAura := by
  induction moves using List.reverseRecOn with
  | nil => exact absurd h (not_occurs_nil start)
  | append_singleton moves move ih =>
    rw [play_concat]
    refine lt_of_lt_of_le ?_ (nextAura_step move _)
    rcases (occurs_concat start moves move).mp h with hpast | hlast
    · exact ih hpast
    · obtain ⟨active, hget⟩ := hP _ _ hlast
      exact ((wellFormed_play hnew moves).fits id active hget).id_lt

end CardEffects.Proofs
