import CardEffects.Proofs.AuraHoldings
import CardEffects.Proofs.AuraRemoval
import CardEffects.Proofs.Keepers

/-!
# Additions that fail

An aura goes on for all that it picks or for none. When its change fails on one of them, the change
is taken back from those before, and this cannot fail. So an aura that is not added has used up a
number, and nothing on the board reads otherwise than before.
-/

namespace CardEffects.Proofs

/-- Whether two boards read the same but for the number of the next aura. -/
structure Unmarked (b b' : Board) : Prop where
  stats_eq : ∀ entity key, b'.stat? entity key = b.stat? entity key
  sides_eq : ∀ player, b'.minionsOf player = b.minionsOf player
  listeners_eq : ∀ surface event, listenersAt b' surface event = listenersAt b surface event
  effects_eq : ∀ owner, effectsOf b' owner = effectsOf b owner
  auras_eq : b'.auras = b.auras
  holdings_eq : ∀ player, b'.aurasOf player = b.aurasOf player
  /-- All else is the same as well. -/
  bare_eq : bare { b' with nextAura := b.nextAura } = bare b

lemma unmarked_of_shifted {b b' : Board} (h : Shifted (numbered b) b' fun _ _ => 0) :
    Unmarked b b' where
  stats_eq entity key := by
    apply stat?_eq_of_level
    · funext entity
      exact contains_eq_of_outline h.outline_eq entity
    · rw [h.level_eq, add_zero]
      rfl
  sides_eq player := by
    have hsides := congrArg (fun o : Outline => o.sides[player.index]?) h.outline_eq
    simp only [outline, List.getElem?_map] at hsides
    unfold Board.minionsOf PerPlayer.get?
    rw [hsides]
    rfl
  listeners_eq surface event := listenersAt_eq_of_bare h.bare_eq surface event
  effects_eq owner := congrFun (congrArg Prod.fst (upkeep_eq_of_bare h.bare_eq)) owner
  auras_eq := (auras_eq_of_outline h.outline_eq : b'.auras = (numbered b).auras)
  holdings_eq player := by
    rw [aurasOf_eq, aurasOf_eq, aloof_holdings.of_bare h.bare_eq]
    rfl
  bare_eq := congrArg (fun bare : Board => { bare with nextAura := b.nextAura }) h.bare_eq

/-! ### Whose fault it is -/

def auraChange : Aura → StatChange
  | .minions aura => aura.change
  | .player aura => aura.change

/-- Those to whom an aura makes its change, in order. -/
def auraTargets (aura : Aura) (board : Board) (owner : EntityId) : Except Fault (List EntityId) :=
  match aura with
  | .minions aura => aura.matched board owner
  | .player _ => .ok [owner]

lemma minions_switchOn_failsOn {aura : MinionAura} (hfresh : aura.active = none) {slot : Slot}
    {b b' : Board} {fault : Fault} (howner : b.contains slot.owner = true)
    (h : aura.switchOn slot b = .error fault b') :
    ∃ targets target, aura.matched b slot.owner = .ok targets ∧
      FailsOn aura.change targets b target fault := by
  obtain ⟨matched, hmatched⟩ := matched_isOk aura howner
  rw [minions_switchOn_run, hmatched, if_neg (by simp [hfresh])] at h
  cases hmake : aura.change.makeAll [] matched b with
  | ok _ b₁ => simp [hmake] at h
  | error fault' b₁ =>
    simp only [hmake, EStateM.Result.error.injEq] at h
    obtain ⟨rfl, -⟩ := h
    have hnone : Shifted b b (onTargets [] (delta aura.change)) :=
      (shifted_refl b).congr fun entity key => by simp [onTargets]
    obtain ⟨-, target, hfails⟩ := makeAll_error _ _ (by simp) hnone hmake
    exact ⟨matched, target, hmatched, hfails⟩

lemma player_switchOn_failsOn {aura : PlayerAura} (hfresh : aura.active = none) {slot : Slot}
    {b b' : Board} {fault : Fault} (hseated : Seated b.playerCount (outline b))
    (h : aura.switchOn slot b = .error fault b') :
    FailsOn aura.change [slot.owner] b slot.owner fault := by
  rw [player_switchOn_run, if_neg (by simp [hfresh])] at h
  cases hmake : aura.change.make slot.owner b with
  | error fault' b₁ =>
    simp only [hmake, EStateM.Result.error.injEq] at h
    exact h.1 ▸ .here hmake []
  | ok _ b₁ =>
    obtain ⟨hbears, hshift⟩ := (make_shifts _ _).ok hmake
    have hseated₁ : Seated b₁.playerCount (outline b₁) := by
      rwa [playerCount_eq_of_outline hshift.outline_eq, hshift.outline_eq]
    have howner : b₁.contains slot.owner = true := by
      rw [contains_eq_of_outline hshift.outline_eq, hbears.1]
    obtain ⟨surface, hsurface, hin⟩ := hseated₁.surface_inPlay aura.ending howner
    rw [← character?_isSome] at hin
    obtain ⟨c, hc⟩ := Option.isSome_iff_exists.mp hin
    simp [hmake, Event.subscribe, hsurface, subscribe_run, hc] at h

lemma switchOn_failsOn {aura : Aura} (hfresh : aura.isActive = false) {slot : Slot} {b b' : Board}
    {fault : Fault} (hseated : Seated b.playerCount (outline b))
    (howner : b.contains slot.owner = true) (h : aura.switchOn slot b = .error fault b') :
    ∃ targets target, auraTargets aura b slot.owner = .ok targets ∧
      FailsOn (auraChange aura) targets b target fault := by
  cases aura with
  | minions aura =>
    have hoff : aura.active = none := by simpa [Aura.isActive] using hfresh
    cases hon : aura.switchOn slot b with
    | ok aura' b₁ => simp [Aura.switchOn, hon] at h
    | error fault' b₁ =>
      simp only [Aura.switchOn, bind_run, hon, EStateM.Result.error.injEq] at h
      exact h.1 ▸ minions_switchOn_failsOn hoff howner hon
  | player aura =>
    have hoff : aura.active = none := by simpa [Aura.isActive] using hfresh
    cases hon : aura.switchOn slot b with
    | ok aura' b₁ => simp [Aura.switchOn, hon] at h
    | error fault' b₁ =>
      simp only [Aura.switchOn, bind_run, hon, EStateM.Result.error.injEq] at h
      exact ⟨[slot.owner], slot.owner, rfl, h.1 ▸ player_switchOn_failsOn hoff hseated hon⟩

lemma auraTargets_inPlay {aura : Aura} {b : Board} (hwell : WellFormed (outline b))
    {owner : EntityId} (howner : b.contains owner = true) {targets : List EntityId}
    (h : auraTargets aura b owner = .ok targets) {target : EntityId} (hmem : target ∈ targets) :
    b.contains target = true := by
  cases aura with
  | minions aura =>
    have hmatched : aura.matched b owner = .ok targets := h
    have hminion := (matched_facts hwell hmatched).2 target hmem
    simp [Board.contains, hminion]
  | player aura =>
    cases h
    rwa [List.mem_singleton.mp hmem]

/-- An aura that is off is not added either because its slot is no slot, or because its change fails
on somebody in play: a stat would leave its range. -/
lemma addAura_blame {b b' : Board} (hwell : WellFormed (outline b))
    (hseated : Seated b.playerCount (outline b)) {holder : PlayerId} {owner : EntityId}
    {aura : Aura}
    (hfresh : aura.isActive = false) {fault : Fault}
    (h : Board.addAura holder owner aura b = .error fault b') :
    b.players.get? holder = none ∧ fault = .notAPlayer holder.hero ∨
    (b.players.get? holder).isSome ∧ b.contains owner = false ∧ fault = .unknownEntity owner ∨
    (b.players.get? holder).isSome ∧ b.contains owner = true ∧ ∃ targets target key,
      auraTargets aura b owner = .ok targets ∧
        FailsOn (auraChange aura) targets (numbered b) target fault ∧
        fault = .statOverflow target key := by
  rw [addAura_run] at h
  split at h
  · next hholder =>
    cases h
    exact .inl ⟨by simpa using hholder, rfl⟩
  next hholder =>
  have hseat : (b.players.get? holder).isSome := by simpa [Option.isSome_iff_ne_none] using hholder
  split at h
  · next howner =>
    cases h
    exact .inr (.inl ⟨hseat, howner, rfl⟩)
  next howner =>
  have hin : b.contains owner = true := by simpa using howner
  cases hon : aura.switchOn (nextSlot b holder owner) (numbered b) with
  | ok aura' b₁ => simp [hon] at h
  | error fault' b₁ =>
    simp only [hon, EStateM.Result.error.injEq] at h
    obtain ⟨rfl, -⟩ := h
    have hnumbered : Seated (numbered b).playerCount (outline (numbered b)) :=
      hseated.of_seating rfl
    have hslot : (numbered b).contains (nextSlot b holder owner).owner = true := hin
    obtain ⟨targets, target, hpicked, hfails⟩ := switchOn_failsOn hfresh hnumbered hslot hon
    have htargets : auraTargets aura b owner = .ok targets := by
      cases aura <;> exact hpicked
    obtain ⟨hmem, hblames⟩ := hfails.blames
    have hplay : (numbered b).contains target = true :=
      auraTargets_inPlay hwell hin htargets hmem
    rw [Blames, if_pos hplay] at hblames
    obtain ⟨key, rfl⟩ := hblames
    exact .inr (.inr ⟨hseat, hin, targets, target, key, htargets, hfails, rfl⟩)

/-- An aura that is off and is not added leaves the board as it was, on every board of a run. The
fault is that of its slot or that of the change on the first target that could not take it. -/
theorem failed_addition_unmarked {σ : Type} {settings : Settings} {host : σ} {game : Game σ}
    (hnew : Game.new settings host = .ok game) (program : Program σ) {b : Board}
    (hb : b ∈ boards program game) (holder : PlayerId) (owner : EntityId) {aura : Aura}
    (hfresh : aura.isActive = false) {fault : Fault} {b' : Board}
    (h : Board.addAura holder owner aura b = .error fault b') :
    Unmarked b b' ∧
      (b.players.get? holder = none ∧ fault = .notAPlayer holder.hero ∨
      (b.players.get? holder).isSome ∧ b.contains owner = false ∧ fault = .unknownEntity owner ∨
      (b.players.get? holder).isSome ∧ b.contains owner = true ∧ ∃ targets target key,
        auraTargets aura b owner = .ok targets ∧
          FailsOn (auraChange aura) targets (numbered b) target fault ∧
          fault = .statOverflow target key) := by
  have hdev := ((boards_develop (dispatching_new hnew) program).2 b hb).1
  have hwell := (wellFormed_new (board_new hnew)).develops hdev
  have hseated := (seated_new hnew).develops hdev
  rw [← hseated.playerCount_eq] at hseated
  refine ⟨?_, addAura_blame hwell hseated hfresh h⟩
  rcases addAura_error h with rfl | hshift
  · exact ⟨fun _ _ => rfl, fun _ => rfl, fun _ _ => rfl, fun _ => rfl, rfl, fun _ => rfl, rfl⟩
  · exact unmarked_of_shifted hshift

/-- Two minions are summoned, and the attack of the second one is raised as far as it goes. -/
def brimming : Program Unit :=
  .perform (.summon ⟨0⟩ none "Squire" .one .one) fun _ =>
    .perform (.summon ⟨0⟩ none "Champion" .one .one) fun _ =>
      .perform (.setStat ⟨3⟩ Stat.attack (.clamp 9223372036854775807)) fun _ =>
        .finish (.ok ())

/-- An aura for both fails on the second one, and the first one does not keep it. -/
theorem brimming_unmarked :
    ∃ game, Game.new Settings.standard () = .ok game ∧ ∃ b ∈ boards brimming game, ∃ fault b',
      Board.addAura ⟨0⟩ ⟨0⟩ (.minions { change := .attack .one, selector := .minion }) b =
        .error fault b' ∧
      fault = .statOverflow ⟨3⟩ Stat.attack ∧ Unmarked b b' ∧
      b'.stat? ⟨2⟩ Stat.attack = some .one := by
  obtain ⟨game, hnew⟩ : ∃ game, Game.new Settings.standard () = .ok game := ⟨_, rfl⟩
  have hlast : (leftBy (Game.execute brimming) game).board ∈ boards brimming game := by
    simp [boards]
  obtain ⟨b', hrun⟩ : ∃ b',
      Board.addAura ⟨0⟩ ⟨0⟩ (.minions { change := .attack .one, selector := .minion })
        (leftBy (Game.execute brimming) game).board =
          .error (.statOverflow ⟨3⟩ Stat.attack) b' := by
    cases hnew
    exact ⟨_, rfl⟩
  have hunmarked := (failed_addition_unmarked hnew brimming hlast ⟨0⟩ ⟨0⟩ rfl hrun).1
  refine ⟨game, hnew, _, hlast, _, b', hrun, rfl, hunmarked, ?_⟩
  rw [hunmarked.stats_eq]
  cases hnew
  rfl

end CardEffects.Proofs
