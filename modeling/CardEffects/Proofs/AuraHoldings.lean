import CardEffects.Proofs.Sides

/-!
# Aura holdings

A board keeps the registered auras in a table and lists for each player those that the player holds.
The two agree at every moment of a run, also when an aura could not be added, removed or refreshed.
-/

namespace CardEffects.Proofs

/-- The auras that each player holds, in seat order. -/
def holdings (b : Board) : List (List AuraId) :=
  b.players.values.map (·.auras)

/-- The player who holds a registered aura. -/
def holder? (b : Board) (id : AuraId) : Option PlayerId :=
  (Table.get? b.auras id).map (·.slot.holder)

lemma aurasOf_eq (b : Board) (player : PlayerId) :
    b.aurasOf player = ((holdings b)[player.index]?).getD [] := by
  simp [Board.aurasOf, holdings, PerPlayer.get?]

lemma aloof_holdings : Aloof holdings where
  modifyCharacter b entity f := by
    unfold Board.modifyCharacter
    cases b.seat? entity with
    | some player => exact map_list_modify _ _ _ _ fun _ => rfl
    | none => rfl
  of_bare h := by
    have hbare : ∀ b, holdings (bare b) = holdings b := fun b => by
      simp [holdings, bare, Function.comp_def, barePlayer]
    rw [← hbare, h, hbare]
  nextListener _ _ := rfl

lemma holdings_modifyPlayer (b : Board) (player : PlayerId) {f : Player → Player}
    (h : ∀ p, (f p).auras = p.auras) : holdings (b.modifyPlayer player f) = holdings b :=
  map_list_modify _ _ _ _ h

lemma holder?_eq_of_auras {b b' : Board} (h : b'.auras = b.auras) : holder? b' = holder? b := by
  unfold holder?
  rw [h]

/-- What is kept of the auras that players hold. -/
structure HoldingsFit (b : Board) : Prop where
  wellFormed : WellFormed (outline b)
  held : ∀ id player, id ∈ b.aurasOf player ↔ holder? b id = some player
  ordered : ∀ player, (b.aurasOf player).Pairwise (·.raw < ·.raw)

lemma HoldingsFit.lt_next {b : Board} (h : HoldingsFit b) {id : AuraId} {player : PlayerId}
    (hmem : id ∈ b.aurasOf player) : id.raw < b.nextAura := by
  obtain ⟨active, hget, -⟩ := Option.map_eq_some_iff.mp ((h.held id player).mp hmem)
  exact (h.wellFormed.fits id active hget).id_lt

lemma HoldingsFit.of_same {b b' : Board} (h : HoldingsFit b) (hwell : WellFormed (outline b'))
    (hholdings : holdings b' = holdings b) (hholder : holder? b' = holder? b) : HoldingsFit b' := by
  have hlists : ∀ player, b'.aurasOf player = b.aurasOf player := fun player => by
    rw [aurasOf_eq, aurasOf_eq, hholdings]
  refine ⟨hwell, fun id player => ?_, fun player => ?_⟩
  · rw [hlists, hholder]
    exact h.held id player
  · rw [hlists]
    exact h.ordered player

lemma aurasOf_of_modify {b b' : Board} {holder : PlayerId} {g : List AuraId → List AuraId}
    (hholder : (b.players.get? holder).isSome)
    (h : holdings b' = (holdings b).modify holder.index g) (player : PlayerId) :
    b'.aurasOf player = if holder = player then g (b.aurasOf player) else b.aurasOf player := by
  rw [aurasOf_eq, aurasOf_eq, h, List.getElem?_modify]
  by_cases hplayer : holder = player
  · subst hplayer
    obtain ⟨seat, hseat⟩ := Option.isSome_iff_exists.mp hholder
    have hget : (holdings b)[holder.index]? = some seat.auras := by
      simp only [PerPlayer.get?] at hseat
      simp [holdings, hseat]
    simp [hget]
  · have hindex : holder.index ≠ player.index := fun hsame => hplayer (by
      cases holder
      cases player
      exact congrArg PlayerId.mk hsame)
    simp [hplayer, hindex]

lemma HoldingsFit.add {b b' : Board} (h : HoldingsFit b) (hwell : WellFormed (outline b'))
    {holder : PlayerId} (active : ActiveAura) (hslot : active.slot.holder = holder)
    (hholder : (b.players.get? holder).isSome)
    (hholdings : holdings b' = (holdings b).modify holder.index (· ++ [⟨b.nextAura⟩]))
    (hauras : b'.auras = Table.insert b.auras ⟨b.nextAura⟩ active) : HoldingsFit b' := by
  have hlists := aurasOf_of_modify hholder hholdings
  refine ⟨hwell, fun id player => ?_, fun player => ?_⟩
  · have hold := h.held id player
    unfold holder? at hold ⊢
    rw [hlists, hauras]
    by_cases hid : (⟨b.nextAura⟩ : AuraId) = id
    · subst hid
      have hfresh : (⟨b.nextAura⟩ : AuraId) ∉ b.aurasOf player := fun hmem =>
        lt_irrefl _ (h.lt_next hmem)
      rw [Table.get?_insert_self]
      by_cases hplayer : holder = player <;> simp [hplayer, hslot, hfresh]
    · rw [Table.get?_insert_of_ne _ _ hid, ← hold]
      by_cases hplayer : holder = player <;> simp [hplayer, Ne.symm hid]
  · rw [hlists]
    split
    · refine List.pairwise_append.mpr ⟨h.ordered player, List.pairwise_singleton _ _, ?_⟩
      intro id hid last hlast
      rw [List.mem_singleton.mp hlast]
      exact h.lt_next hid
    · exact h.ordered player

lemma HoldingsFit.remove {b b' : Board} (h : HoldingsFit b) (hwell : WellFormed (outline b'))
    {id : AuraId} {active : ActiveAura} (hget : Table.get? b.auras id = some active)
    (hholdings : holdings b' =
      (holdings b).modify active.slot.holder.index (·.filter (· ≠ id)))
    (hauras : b'.auras = Table.erase b.auras id) : HoldingsFit b' := by
  have hholder : holder? b id = some active.slot.holder := by simp [holder?, hget]
  have hseat : (b.players.get? active.slot.holder).isSome := by
    have hmem := (h.held id _).mpr hholder
    unfold Board.aurasOf at hmem
    cases hplayer : b.players.get? active.slot.holder with
    | none => simp [hplayer] at hmem
    | some seat => rfl
  have hlists := aurasOf_of_modify hseat hholdings
  refine ⟨hwell, fun id' player => ?_, fun player => ?_⟩
  · have hold := h.held id' player
    unfold holder? at hold hholder ⊢
    rw [hlists, hauras]
    by_cases hid : id = id'
    · subst hid
      rw [Table.get?_erase_self]
      rw [hholder] at hold
      by_cases hplayer : active.slot.holder = player <;> simp [hplayer, hold]
    · rw [Table.get?_erase_of_ne _ hid, ← hold]
      by_cases hplayer : active.slot.holder = player <;> simp [hplayer, Ne.symm hid]
  · rw [hlists]
    split
    · exact (h.ordered player).sublist List.filter_sublist
    · exact h.ordered player

lemma HoldingsFit.addAura {b : Board} (h : HoldingsFit b) (holder : PlayerId) (owner : EntityId)
    (aura : Aura) : HoldingsFit (leftBy (Board.addAura holder owner aura) b) := by
  have hwell := wellFormed_step (.addAura holder owner aura) b h.wellFormed
  simp only [Move.run, leftBy_discard] at hwell
  cases hrun : Board.addAura holder owner aura b with
  | error fault b' =>
    rw [leftBy_of_error hrun] at hwell ⊢
    rcases addAura_error hrun with rfl | hshift
    · exact h
    · have hauras : b'.auras = b.auras :=
        auras_eq_of_outline (b := numbered b) (outline_eq_of_bare hshift.bare_eq)
      have hholdings : holdings b' = holdings b :=
        aloof_holdings.of_bare (b := numbered b) hshift.bare_eq
      exact h.of_same hwell hholdings (holder?_eq_of_auras hauras)
  | ok id b' =>
    have hholder : (b.players.get? holder).isSome := by
      rw [addAura_run] at hrun
      cases hplayer : b.players.get? holder with
      | none => simp [hplayer] at hrun
      | some seat => rfl
    rw [leftBy_of_ok hrun] at hwell ⊢
    obtain ⟨-, -, aura', b₁, hon, rfl⟩ := addAura_ok hrun
    have hauras : b₁.auras = b.auras :=
      auras_eq_of_outline (b := numbered b) (outline_switchOn hon)
    have hholdings : holdings b₁ = holdings b := by
      have hswitch := aloof_holdings.switchOn aura (nextSlot b holder owner) (numbered b)
      rwa [leftBy_of_ok hon] at hswitch
    refine h.add hwell ⟨nextSlot b holder owner, aura'⟩ rfl hholder ?_ ?_
    · rw [← hholdings]
      exact map_modifyPlayer (r := fun p : Player => p.auras)
        (f := fun p => { p with auras := p.auras ++ [⟨b.nextAura⟩] }) b₁ holder fun _ => rfl
    · exact congrArg (fun auras => Table.insert auras _ _) hauras

lemma HoldingsFit.removeAura {b : Board} (h : HoldingsFit b) (id : AuraId) :
    HoldingsFit (leftBy (Board.removeAura id) b) := by
  have hwell := wellFormed_step (.removeAura id) b h.wellFormed
  have hauras := auras_removeAura_step id b
  simp only [Move.run] at hwell hauras
  have hleft := leftBy_removeAura id b
  cases hget : Table.get? b.auras id with
  | none =>
    simp only [hget] at hleft
    rwa [hleft]
  | some active =>
    simp only [hget] at hleft
    have hholdings : holdings (leftBy (Board.removeAura id) b) =
        (holdings b).modify active.slot.holder.index (·.filter (· ≠ id)) := by
      rw [hleft]
      refine (aloof_holdings.switchOff active.aura _).trans ?_
      exact map_modifyPlayer (r := fun p : Player => p.auras)
        (g := fun auras : List AuraId => auras.filter (· ≠ id)) b active.slot.holder fun _ => rfl
    exact h.remove hwell hget hholdings hauras

lemma holdings_refreshAura (id : AuraId) : Within (Same holdings) (Board.refreshAura id) := by
  intro b
  cases hrun : Board.refreshAura id b with
  | error fault b' =>
    obtain ⟨slot, aura, b₁, -, hbare, rfl⟩ := refreshAura_error hrun
    rw [leftBy_of_error hrun]
    exact (aloof_holdings.of_bare hbare : holdings b₁ = holdings b)
  | ok _ b' =>
    rw [leftBy_of_ok hrun]
    rcases refreshAura_ok hrun with
      rfl | ⟨slot, aura, b₁, matched, b₂, -, -, hbare, -, hshift, rfl⟩
    · exact refl _
    · exact (aloof_holdings.of_bare (hshift.bare_eq.trans hbare) : holdings b₂ = holdings b)

lemma HoldingsFit.refreshAura {b : Board} (h : HoldingsFit b) (id : AuraId) :
    HoldingsFit (leftBy (Board.refreshAura id) b) := by
  have hwell := wellFormed_step (.refreshAura id) b h.wellFormed
  have hauras := auras_refreshAura_step id b
  simp only [Move.run] at hwell hauras
  refine h.of_same hwell (holdings_refreshAura id b) ?_
  rcases hauras with hsame | ⟨slot, aura, active, hold, hrefreshed⟩
  · exact holder?_eq_of_auras hsame
  · funext id'
    unfold holder?
    rw [hrefreshed]
    by_cases hid : id = id'
    · subst hid
      rw [Table.get?_modify_self, hold]
      rfl
    · rw [Table.get?_modify_of_ne _ _ hid]

lemma HoldingsFit.step {b b' : Board} (h : HoldingsFit b) (hstep : Step (fun _ => True) b b') :
    HoldingsFit b' := by
  have hwell : WellFormed (outline b') := h.wellFormed.develops (.single hstep)
  cases hstep with
  | switchOn aura slot =>
    exact h.of_same hwell (aloof_holdings.switchOn aura slot b)
      (holder?_eq_of_auras (auras_eq_of_outline (aloof_outline.switchOn aura slot b)))
  | switchOff aura =>
    exact h.of_same hwell (aloof_holdings.switchOff aura b)
      (holder?_eq_of_auras (auras_eq_of_outline (aloof_outline.switchOff aura b)))
  | move move _ _ =>
    have hholder : ¬move.OnRegister → holder? (leftBy move.run b) = holder? b := fun hregister =>
      holder?_eq_of_auras (auras_step hregister b)
    by_cases hcharacter : move.OnCharacter
    · refine h.of_same hwell (aloof_holdings.move hcharacter b) (hholder ?_)
      cases move <;> simp_all [Move.OnCharacter, Move.OnRegister]
    cases move with
    | place player spot name attack health =>
      refine h.of_same hwell ?_ (hholder id)
      rcases place_step player spot name attack health b with hsame | ⟨index, stats, -, hplaced⟩
      · rw [hsame]
      · rw [hplaced]
        exact holdings_modifyPlayer b player fun _ => rfl
    | leave leaver =>
      refine h.of_same hwell ?_ (hholder id)
      rcases leave_step leaver b with hsame | ⟨minion, -, -, hdeparted⟩
      · rw [hsame]
      · rw [hdeparted]
        exact holdings_modifyPlayer b minion.controller fun _ => rfl
    | addAura holder owner aura =>
      have hadd := h.addAura holder owner aura
      rwa [← leftBy_discard] at hadd
    | removeAura id => exact h.removeAura id
    | refreshAura id => exact h.refreshAura id
    | spend listener => exact h.of_same hwell rfl rfl
    | enter surface event => exact h.of_same hwell rfl rfl
    | conclude => exact h.of_same hwell rfl rfl
    | passTurn => exact h.of_same hwell rfl rfl
    | _ => exact absurd trivial hcharacter

lemma HoldingsFit.develops {b b' : Board} (h : HoldingsFit b) (hdev : Develops b b') :
    HoldingsFit b' :=
  hdev.preserves (fun _ _ hstep hb => hb.step hstep) h

/-! ### Boards -/

lemma HoldingsFit.holder_of_get? {b : Board} (h : HoldingsFit b) {id : AuraId} {active : ActiveAura}
    (hget : Table.get? b.auras id = some active) (player : PlayerId) :
    id ∈ b.aurasOf player ↔ player = active.slot.holder := by
  rw [h.held]
  simp [holder?, hget, eq_comm]

lemma HoldingsFit.isAuraActive_iff {b : Board} (h : HoldingsFit b) (id : AuraId) :
    b.isAuraActive id = true ↔ ∃ player, id ∈ b.aurasOf player := by
  simp only [h.held, holder?, Option.map_eq_some_iff, Board.isAuraActive, Table.contains,
    Option.isSome_iff_exists]
  constructor
  · rintro ⟨active, hget⟩
    exact ⟨_, active, hget, rfl⟩
  · rintro ⟨player, active, hget, -⟩
    exact ⟨active, hget⟩

lemma isMinion_removeMinion {id : EntityId} {minion : Minion} {b b' : Board}
    (h : Board.removeMinion id b = .ok minion b') : b.isMinion id = true ∧ b'.isMinion id = false := by
  obtain ⟨hminion, -, -, -, -, -, -, -, rfl⟩ := removeMinion_ok h
  exact ⟨hminion, by simp [Board.isMinion, Board.minion?, departed]⟩

lemma owner_ne_of_removeMinion {count : Nat} {b b' : Board} {id : EntityId} {minion : Minion}
    (hwell : WellFormed (outline b)) (hseated : Seated count (outline b))
    (h : Board.removeMinion id b = .ok minion b') {aura : AuraId} {active : ActiveAura}
    (hget : Table.get? b'.auras aura = some active) : active.slot.owner ≠ id := by
  obtain ⟨hminion, hgone⟩ := isMinion_removeMinion h
  have hworks : Works b b' := by
    have hwithin := within_removeMinion (R := Works) id b
    rwa [leftBy_of_ok h] at hwithin
  rintro rfl
  have howner : b'.contains active.slot.owner = true :=
    (inPlay_outline_iff b' _).mp ((hwell.develops hworks.develops).fits aura active hget).owner_inPlay
  have hcount : b'.playerCount = b.playerCount := by
    rw [hseated.playerCount_eq, (hseated.develops hworks.develops).playerCount_eq]
  obtain ⟨leaver, hleaver⟩ := Option.isSome_iff_exists.mp hminion
  have hnumber := playerCount_le_of_minion? hwell hleaver
  have hseat : b'.seat? active.slot.owner = none := by
    unfold Board.seat?
    rw [hcount, if_neg (by omega)]
  simp [Board.contains, hgone, hseat] at howner

section Runs

variable {σ : Type} {settings : Settings} {host : σ} {game : Game σ}
  (hnew : Game.new settings host = .ok game)

include hnew

lemma holdingsFit_new : HoldingsFit game.board := by
  obtain ⟨players, hboard, hvalues, -⟩ := new_eq (board_new hnew)
  have hnone : ∀ player, game.board.aurasOf player = [] := by
    intro player
    rw [aurasOf_eq, hboard]
    simp only [holdings, hvalues, List.map_map, List.getElem?_map]
    cases (PlayerId.all settings.playerCount)[player.index]? <;> rfl
  refine ⟨wellFormed_new (board_new hnew), fun id player => ?_, fun player => ?_⟩
  · rw [hnone, hboard]
    simp [holder?]
  · rw [hnone]
    exact .nil

/-- On every board of a run an aura is registered exactly if some player holds it, that player is the
one it is registered with, who lists it once and the oldest aura first, and its owner is in play. So
a minion that has been removed owns no aura. -/
theorem holdings_agree (program : Program σ) :
    Game.run watchedFire (watch program) (withTranscript game {}) =
        transcribed (transcript program game) (Game.execute program game) ∧
    ∀ b ∈ boards program game,
      (∀ id, b.isAuraActive id = true ↔ ∃ player, id ∈ b.aurasOf player) ∧
      (∀ id active, Table.get? b.auras id = some active →
        (∀ player, id ∈ b.aurasOf player ↔ player = active.slot.holder) ∧
        (b.aurasOf active.slot.holder).count id = 1 ∧ b.contains active.slot.owner = true) ∧
      (∀ player, (b.aurasOf player).Pairwise (·.raw < ·.raw)) ∧
      ∀ id minion b', Board.removeMinion id b = .ok minion b' →
        ∀ aura active, Table.get? b'.auras aura = some active → active.slot.owner ≠ id := by
  refine ⟨(watched_execute (dispatching_new hnew) program).1, fun b hb => ?_⟩
  have hdev := ((boards_develop (dispatching_new hnew) program).2 b hb).1
  have hfit := (holdingsFit_new hnew).develops hdev
  have hseated := (seated_new hnew).develops hdev
  refine ⟨hfit.isAuraActive_iff, fun id active hget => ?_, hfit.ordered,
    fun id minion b' hremove aura active hget =>
      owner_ne_of_removeMinion hfit.wellFormed hseated hremove hget⟩
  have hholder := hfit.holder_of_get? hget
  have hnodup : (b.aurasOf active.slot.holder).Nodup :=
    (hfit.ordered active.slot.holder).imp fun hlt hsame => (hsame ▸ hlt).false
  exact ⟨hholder, List.count_eq_one_of_mem hnodup ((hholder _).mpr rfl),
    (inPlay_outline_iff b _).mp (hfit.wellFormed.fits id active hget).owner_inPlay⟩

end Runs

/-- A player holds an aura that a minion owns and one that the hero owns. Then the minion is
removed. -/
def banners : Program Unit :=
  .perform (.summon ⟨0⟩ none "Bearer" .one .one) fun _ =>
    .perform (.addAura ⟨0⟩ ⟨2⟩ (.minions { change := .attack .one, selector := .minion })) fun _ =>
      .perform (.addAura ⟨0⟩ ⟨0⟩ (.minions { change := .health .one, selector := .minion }))
        fun _ => .perform (.removeMinion ⟨2⟩) fun _ => .finish (.ok ())

theorem banners_agree :
    ∃ game, Game.new Settings.standard () = .ok game ∧
      (∃ b ∈ boards banners game, b.aurasOf ⟨0⟩ = [⟨0⟩, ⟨1⟩] ∧ b.isAuraActive ⟨0⟩ = true) ∧
      (leftBy (Game.execute banners) game).board.isAuraActive ⟨0⟩ = false := by
  obtain ⟨game, hnew⟩ : ∃ game, Game.new Settings.standard () = .ok game := ⟨_, rfl⟩
  have hagree := (holdings_agree hnew banners).2
  have hmoment : [⟨0⟩, ⟨1⟩] ∈ (boards banners game).map (·.aurasOf ⟨0⟩) := by
    cases hnew
    decide +kernel
  obtain ⟨b, hb, hlist⟩ := List.mem_map.mp hmoment
  have hactive : b.isAuraActive ⟨0⟩ = true := ((hagree b hb).1 ⟨0⟩).mpr ⟨⟨0⟩, by simp [hlist]⟩
  refine ⟨game, hnew, ⟨b, hb, hlist, hactive⟩, ?_⟩
  cases hnew
  decide +kernel

end CardEffects.Proofs
