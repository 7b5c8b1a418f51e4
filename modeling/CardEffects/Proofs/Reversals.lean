import CardEffects.Proofs.FailedAdditions
import CardEffects.Proofs.RoundTrips
import CardEffects.Proofs.Scopes

/-!
# Reversals

An aura that is added and removed at once leaves everything as it was. For an aura that picks anew
whom to leave, the reason is that its own change makes the selector keep those it had picked. The
one exception is a rise in health for those with the lowest.
-/

namespace CardEffects.Proofs

/-- Whether two boards read the same but for the numbers that have been used up. -/
structure Restored (b b' : Board) : Prop where
  stats_eq : ∀ entity key, b'.stat? entity key = b.stat? entity key
  controllers_eq : ∀ entity, b'.controller? entity = b.controller? entity
  sides_eq : ∀ player, b'.minionsOf player = b.minionsOf player
  listeners_eq : ∀ surface event, listenersAt b' surface event = listenersAt b surface event
  effects_eq : ∀ owner, effectsOf b' owner = effectsOf b owner
  auras_eq : b'.auras = b.auras
  holdings_eq : ∀ player, b'.aurasOf player = b.aurasOf player
  /-- Settings, occurrences under way and turns. -/
  course_eq : course b' = course b

/-! ### Removal at once -/

lemma deregistered_registered {b : Board} {slot : Slot} (aura : Aura)
    (hfresh : Table.get? b.auras slot.id = none) (hnew : slot.id ∉ b.aurasOf slot.holder) :
    deregistered (registered b slot aura) slot.id slot.holder = b := by
  have hauras : Table.erase (Table.insert b.auras slot.id { slot, aura }) slot.id = b.auras := by
    have hrest := erase_eq_self hfresh
    unfold Table.erase at hrest ⊢
    rw [insert_eq_append hfresh, List.filter_append, hrest]
    simp
  have hplayers : ((b.players.modify slot.holder fun player =>
      { player with auras := player.auras ++ [slot.id] }).modify slot.holder fun player =>
        { player with auras := player.auras.filter (· ≠ slot.id) }) = b.players := by
    refine congrArg PerPlayer.mk (List.ext_getElem? fun i => ?_)
    simp only [PerPlayer.modify, List.getElem?_modify]
    cases hplayer : b.players.values[i]? with
    | none => simp
    | some player =>
      by_cases hi : slot.holder.index = i
      · subst hi
        have hheld : slot.id ∉ player.auras := by
          simpa [Board.aurasOf, PerPlayer.get?, hplayer] using hnew
        have hkept : player.auras.filter (fun id => !decide (id = slot.id)) = player.auras :=
          List.filter_eq_self.mpr fun id hid => by simpa using ne_of_mem_of_not_mem hid hheld
        simp [List.filter_append, hkept]
      · simp [hi]
  simp only [deregistered, registered, Board.modifyPlayer, hauras, hplayers]

lemma removeAura_added {b b₁ : Board} (hfit : HoldingsFit b) {holder : PlayerId} {owner : EntityId}
    {aura : Aura} {id : AuraId} (hadd : Board.addAura holder owner aura b = .ok id b₁) :
    b.contains owner = true ∧ ∃ aura' c,
      aura.switchOn (nextSlot b holder owner) (numbered b) = .ok aura' c ∧
      Board.removeAura id b₁ = aura'.switchOff c := by
  obtain ⟨rfl, howner, aura', c, hon, rfl⟩ := addAura_ok hadd
  refine ⟨howner, aura', c, hon, ?_⟩
  have hauras : c.auras = b.auras := auras_eq_of_outline (b := numbered b) (outline_switchOn hon)
  have hholdings : holdings c = holdings b := by
    have hswitch := aloof_holdings.switchOn aura (nextSlot b holder owner) (numbered b)
    rwa [leftBy_of_ok hon] at hswitch
  have hfresh : Table.get? c.auras (nextSlot b holder owner).id = none := by
    rw [hauras]
    exact hfit.wellFormed.aura_fresh le_rfl
  have hnew : (nextSlot b holder owner).id ∉ c.aurasOf holder := by
    rw [aurasOf_eq, hholdings, ← aurasOf_eq]
    exact fun hmem => lt_irrefl _ (hfit.lt_next hmem)
  have hget : Table.get? (registered c (nextSlot b holder owner) aura').auras ⟨b.nextAura⟩ =
      some ⟨nextSlot b holder owner, aura'⟩ := Table.get?_insert_self _ _ _
  rw [removeAura_run, hget]
  exact congrArg aura'.switchOff (deregistered_registered aura' hfresh hnew)

lemma Aloof.reversed {γ : Type} {reads : Board → γ} (h : Aloof reads) {aura aura' : Aura}
    {slot : Slot} {b c b' : Board} (hon : aura.switchOn slot b = .ok aura' c)
    (hoff : aura'.switchOff c = .ok () b') : reads b' = reads b := by
  have hfirst := h.switchOn aura slot b
  have hthen := h.switchOff aura' c
  rw [leftBy_of_ok hon] at hfirst
  rw [leftBy_of_ok hoff] at hthen
  exact hthen.trans hfirst

/-- What switching an aura on and off again has to give back by itself. The rest no aura touches. -/
structure Reversed (b b' : Board) : Prop where
  level_eq : level b' = level b
  listeners_eq : ∀ surface event, listenersAt b' surface event = listenersAt b surface event
  upkeep_eq : upkeep b' = upkeep b

lemma Reversed.of_shifted {b b' : Board} (h : Shifted b b' fun _ _ => 0) : Reversed b b' where
  level_eq := by
    funext entity key
    rw [h.level_eq, add_zero]
  listeners_eq := listenersAt_eq_of_bare h.bare_eq
  upkeep_eq := upkeep_eq_of_bare h.bare_eq

lemma restored_of_reversed {b b' c : Board} {holder : PlayerId} {owner : EntityId}
    {aura aura' : Aura}
    (hon : aura.switchOn (nextSlot b holder owner) (numbered b) = .ok aura' c)
    (hoff : aura'.switchOff c = .ok () b') (h : Reversed (numbered b) b') : Restored b b' := by
  have houtline : outline b' = outline (numbered b) := aloof_outline.reversed hon hoff
  have hseating : seating b' = seating b := seating_eq_of_outline (b := numbered b) houtline
  refine ⟨fun entity key => ?_, controller?_eq_of_seating hseating,
    minionsOf_eq_of_seating hseating, h.listeners_eq, fun entity => congrFun (congrArg Prod.fst h.upkeep_eq) entity,
    auras_eq_of_outline (b := numbered b) houtline, fun player => ?_,
    (aloof_course.reversed hon hoff : course b' = course (numbered b))⟩
  · exact stat?_eq_of_level (contains_eq_of_seating hseating)
      (congrFun (congrFun h.level_eq entity) key)
  · rw [aurasOf_eq, aurasOf_eq, aloof_holdings.reversed hon hoff]
    rfl

/-! ### Minion auras -/

lemma switchOff_eq_undo {aura : MinionAura} {slot : Slot} {affected targets : List EntityId}
    {b : Board} (hactive : aura.active = some (slot, affected))
    (hleaving : aura.leaving b slot.owner affected = .ok targets) :
    aura.switchOff b = aura.change.undoOnMinions targets b := by
  rw [minions_switchOff_run]
  simp only [hactive, hleaving]

lemma minions_switchOn_facts {aura aura' : MinionAura} {slot : Slot} {b c : Board}
    (hwell : WellFormed (outline b)) (howner : b.contains slot.owner = true)
    (hon : aura.switchOn slot b = .ok aura' c) :
    ∃ covered matched, aura.players.minions b slot.owner = .ok covered ∧
      matched = pick aura.selector (level b) slot.owner covered ∧
      aura' = { aura with active := some (slot, matched) } ∧
      Shifted b c (onTargets matched (delta aura.change)) ∧
      matched.Nodup ∧ (∀ e ∈ matched, c.isMinion e = true) ∧
      aura.matched c slot.owner = .ok (pick aura.selector
        (changed (level b) matched (delta aura.change)) slot.owner covered) ∧
      aura'.switchOff c = aura.change.undoOnMinions
        (match aura.removal with
        | .snapshot => matched
        | .recompute => pick aura.selector (changed (level b) matched (delta aura.change))
            slot.owner covered) c := by
  obtain ⟨matched, hmatched, rfl, hshift⟩ := minions_switchOn_ok hon
  obtain ⟨hnodup, hminion⟩ := matched_facts hwell hmatched
  have hseating : seating c = seating b := seating_eq_of_outline hshift.outline_eq
  have hpicked := matched_eq hwell aura slot.owner
  rw [hmatched] at hpicked
  cases hcovered : aura.players.minions b slot.owner with
  | error fault => simp [hcovered, Except.map] at hpicked
  | ok covered =>
    simp only [hcovered, Except.map, Except.ok.injEq] at hpicked
    have hagain : aura.matched c slot.owner = .ok (pick aura.selector
        (changed (level b) matched (delta aura.change)) slot.owner covered) := by
      rw [matched_eq (by rwa [hshift.outline_eq]), minions_eq_of_seating hseating, hcovered,
        hshift.level_eq_changed hnodup]
      rfl
    refine ⟨covered, matched, rfl, hpicked, rfl, hshift, hnodup, fun e he => ?_, hagain, ?_⟩
    · rw [isMinion_eq_of_outline hshift.outline_eq, hminion e he]
    · refine switchOff_eq_undo rfl ?_
      unfold MinionAura.leaving
      cases aura.removal with
      | snapshot => rfl
      | recompute =>
        rw [contains_eq_of_outline hshift.outline_eq, howner]
        exact hagain

lemma undoOnMinions_of_made {change : StatChange} {targets : List EntityId} {b c : Board}
    (hshift : Shifted b c (onTargets targets (delta change))) (hnodup : targets.Nodup)
    (hminion : ∀ e ∈ targets, c.isMinion e = true) :
    ∃ b', change.undoOnMinions targets c = .ok () b' ∧ Shifted b b' fun _ _ => 0 := by
  have hall : targets.filter c.isMinion = targets := List.filter_eq_self.mpr hminion
  rcases undoOnMinions_prefix change hnodup c with
    ⟨-, b', hrun, hback⟩ | ⟨done, target, rest, key, b', hsplit, -, hno, -, -⟩
  · refine ⟨b', hrun, (hshift.trans hback).congr fun entity key => ?_⟩
    rw [hall, onTargets_of_nodup hnodup, onTargets_of_nodup hnodup]
    split <;> ring
  · have hmem : target ∈ targets := by
      rw [hall] at hsplit
      simp [hsplit]
    refine absurd ⟨by simp [Board.contains, hminion target hmem], fun key => ?_⟩ hno
    rw [hshift.level_eq, onTargets_of_nodup hnodup, if_pos hmem]
    simpa using level_inRange b target key

/-- A minion aura that is switched off at once leaves no trace if it leaves those it was put on, or
if its selector sticks to them. -/
lemma minions_reversed {aura aura' : MinionAura} {slot : Slot} {b c : Board}
    (hwell : WellFormed (outline b)) (howner : b.contains slot.owner = true)
    (hon : aura.switchOn slot b = .ok aura' c)
    (hsticks : aura.removal = .recompute →
      Confirms aura.selector (reading aura.selector (delta aura.change))) :
    ∃ b', aura'.switchOff c = .ok () b' ∧ Reversed b b' := by
  obtain ⟨covered, matched, -, hpicked, rfl, hshift, hnodup, hminion, -, hoff⟩ :=
    minions_switchOn_facts hwell howner hon
  obtain ⟨b', hundo, hback⟩ := undoOnMinions_of_made hshift hnodup hminion
  refine ⟨b', hoff.trans ?_, .of_shifted hback⟩
  cases hremoval : aura.removal with
  | snapshot => exact hundo
  | recompute =>
    simp only
    rwa [hpicked, pick_changed (hsticks hremoval), ← hpicked]

/-- Whether those with the lowest health among some minions still have it when they gain an
amount. -/
def KeepsLowest (b : Board) (candidates : List EntityId) (amount : Int) : Prop :=
  ∀ low ∈ candidates,
    (∀ other ∈ candidates, level b low Stat.health ≤ level b other Stat.health) →
      ∀ e ∈ candidates, level b low Stat.health < level b e Stat.health →
        level b low Stat.health + amount < level b e Stat.health

lemma keepsLowest_iff (b : Board) (change : StatChange) (source : EntityId)
    (candidates : List EntityId) :
    KeepsLowest b candidates (delta change Stat.health) ↔
      pick .hasLowestHealth
          (changed (level b) (pick .hasLowestHealth (level b) source candidates) (delta change))
          source candidates =
        pick .hasLowestHealth (level b) source candidates := by
  rw [pick_lowest_changed_iff]
  simp only [mem_pick_lowest]
  constructor
  · rintro hkeeps low ⟨hlow, hleast⟩ e he hnot
    refine hkeeps low hlow hleast e he (lt_of_le_of_ne (hleast e he) fun heq => hnot ?_)
    exact ⟨he, heq ▸ hleast⟩
  · intro hkeeps low hlow hleast e he hless
    exact hkeeps low ⟨hlow, hleast⟩ e he fun hlowest =>
      absurd (hlowest.2 low hlow) (not_le.mpr hless)

/-- Whether an aura gives health to those with the lowest, and picks anew whom to leave. -/
def RaisesLowest (aura : MinionAura) (amount : Amount) : Prop :=
  aura.removal = .recompute ∧ aura.selector = .hasLowestHealth ∧ aura.change = .health amount ∧
    0 < amount.val

lemma confirms_of_builtIn {aura : MinionAura} (hselector : IsBuiltInSelector aura.selector)
    (hremoval : aura.removal = .recompute) (hraises : ∀ amount, ¬RaisesLowest aura amount) :
    Confirms aura.selector (reading aura.selector (delta aura.change)) := by
  have hbalance : reading .damaged (delta aura.change) = 0 := by
    cases aura.change <;>
      simp [reading, delta, Stat.health, Stat.maxHealth, Stat.attack, Stat.taunt]
  have htaunt : 0 ≤ delta aura.change Stat.taunt := by
    cases aura.change <;> simp [delta, Stat.health, Stat.maxHealth, Stat.attack, Stat.taunt]
  cases hkind : aura.selector with
  | minion => trivial
  | notSelf => trivial
  | damaged => exact hbalance.le
  | hasTaunt => exact htaunt
  | hasLowestHealth =>
    cases hchange : aura.change with
    | attack amount => exact (by decide : (0 : Int) ≤ 0)
    | taunt => exact (by decide : (0 : Int) ≤ 0)
    | health amount =>
      have hamount : amount.val ≤ 0 := by
        by_contra hpositive
        exact hraises amount ⟨hremoval, hkind, hchange, by omega⟩
      simpa [Confirms, reading, delta] using hamount
  | attackAtLeast min =>
    obtain ⟨name, hname⟩ := hselector
    rw [hkind] at hname
    simp [bareSelectors] at hname

/-- Where the lowest health is raised, all is as before exactly if nobody is overtaken. -/
lemma raised_reversed_iff {aura aura' : MinionAura} {amount : Amount} {slot : Slot} {b c : Board}
    (hwell : WellFormed (outline b)) (howner : b.contains slot.owner = true)
    (hraises : RaisesLowest aura amount) (hon : aura.switchOn slot b = .ok aura' c)
    {covered : List EntityId} (hcovered : aura.players.minions b slot.owner = .ok covered) :
    (∃ b', aura'.switchOff c = .ok () b' ∧ Reversed b b') ↔ KeepsLowest b covered amount.val := by
  obtain ⟨change, selector, players, removal, active⟩ := aura
  obtain ⟨rfl, rfl, rfl, hpositive⟩ := hraises
  obtain ⟨covered', matched, hcovered', hpicked, rfl, hshift, hnodup, hminion, hagain, hrun⟩ :=
    minions_switchOn_facts hwell howner hon
  obtain rfl : covered' = covered := Except.ok.inj (hcovered'.symm.trans hcovered)
  have hgain : delta (.health amount) Stat.health = amount.val := by simp [delta]
  rw [← hgain, keepsLowest_iff b _ slot.owner, ← hpicked]
  simp only at hrun hagain hpicked hshift
  generalize hthen : pick .hasLowestHealth (changed (level b) matched (delta (.health amount)))
    slot.owner covered' = picked at hrun hagain ⊢
  constructor
  · rintro ⟨b', hoff, hreversed⟩
    rw [hoff] at hrun
    rcases undoOnMinions_outcome (.health amount) picked c with
      ⟨b₁, hok, hback⟩ | ⟨_, _, _, _, b₁, -, herror, -, -⟩
    · rw [hok] at hrun
      cases hrun
      obtain ⟨hdistinct, hall⟩ := matched_facts (by rwa [hshift.outline_eq]) hagain
      rw [List.filter_eq_self.mpr hall] at hback
      refine hthen.symm.trans (Eq.trans (pick_eq_of_mem_iff fun e _ => ?_) hpicked.symm)
      rw [hthen, ← hpicked]
      have hhealth := congrFun (congrFun hreversed.level_eq e) Stat.health
      rw [hback.level_eq, hshift.level_eq, onTargets_of_nodup hnodup,
        onTargets_of_nodup hdistinct, hgain] at hhealth
      by_cases hin : e ∈ picked <;> by_cases hin' : e ∈ matched <;>
        simp only [hin, hin', if_true, if_false] at hhealth ⊢ <;> omega
    · rw [herror] at hrun
      cases hrun
  · intro hsame
    rw [hsame] at hrun
    obtain ⟨b', hundo, hback⟩ := undoOnMinions_of_made hshift hnodup hminion
    exact ⟨b', hrun.trans hundo, .of_shifted hback⟩

/-! ### Player auras -/

lemma player_reversed {aura aura' : PlayerAura} {slot : Slot} {b c : Board} (hfit : ListenersFit b)
    (howner : b.contains slot.owner = true) (hon : aura.switchOn slot b = .ok aura' c) :
    ∃ b', aura'.switchOff c = .ok () b' ∧ Reversed b b' := by
  obtain ⟨b₁, surface, character, hshift, -, hcharacter, rfl, rfl⟩ := player_switchOn_ok hon
  have hstanding := standing_subscribed b₁ surface aura.ending.name (endingListener aura slot)
  have hlisteners := listenersAt_subscribed hcharacter aura.ending.name (endingListener aura slot)
  have hupkeep := upkeep_subscribed b₁ surface aura.ending.name (endingListener aura slot)
  generalize subscribed b₁ surface aura.ending.name (endingListener aura slot) = c at *
  have hbears : Bears c slot.owner fun key => -delta aura.change key := by
    refine ⟨?_, fun key => ?_⟩
    · rw [contains_eq_of_outline (outline_eq_of_standing hstanding),
        contains_eq_of_outline hshift.outline_eq, howner]
    · rw [level_eq_of_standing hstanding, hshift.level_eq]
      simpa [onTarget] using level_inRange b slot.owner key
  have hactive : ({ aura with active := some (slot, endingBinding aura slot surface b₁) } :
      PlayerAura).active = some (slot, endingBinding aura slot surface b₁) := rfl
  rcases player_switchOff_outcome hactive rfl c with ⟨hno, -⟩ | ⟨-, b₂, hback, hrun⟩
  · exact absurd hbears hno
  -- The next number is on no list yet.
  have hfresh : ∀ surface' event', (listenersAt b₁ surface' event').eraseP
      (·.1 = (⟨b₁.nextListener⟩ : ListenerId)) = listenersAt b₁ surface' event' := by
    intro surface' event'
    refine List.eraseP_of_forall_not fun entry hentry => ?_
    rw [listenersAt_eq_of_bare hshift.bare_eq] at hentry
    have hlt := hfit.lt_next hentry
    rw [nextListener_eq_of_bare hshift.bare_eq]
    simp only [decide_eq_true_eq]
    rintro heq
    rw [heq] at hlt
    exact lt_irrefl _ hlt
  have hnow : ∀ surface' event', listenersAt b₂ surface' event' =
      listenersAt b₁ surface' event' ++
        if surface = surface' ∧ aura.ending.name = event' then
          [(⟨b₁.nextListener⟩, endingListener aura slot)] else [] := fun surface' event' => by
    rw [listenersAt_eq_of_bare hback.bare_eq, hlisteners]
  rcases unsubscribe_outcome surface aura.ending.name ⟨b₁.nextListener⟩ b₂ with
    ⟨-, b', hok, hreleased⟩ | ⟨hunbound, -⟩
  · refine ⟨b', hrun.trans hok, ?_, fun surface' event' => ?_, ?_⟩
    · funext entity key
      rw [level_eq_of_standing hreleased.standing_eq, hback.level_eq,
        level_eq_of_standing hstanding, hshift.level_eq]
      by_cases hentity : slot.owner = entity <;> simp [onTarget, hentity]
    · rw [hreleased.listeners_eq, hnow, ← listenersAt_eq_of_bare hshift.bare_eq]
      split
      · rw [List.eraseP_append_right _ fun entry hentry => ?_]
        · simp
        · have herased := hfresh surface' event'
          rw [List.eraseP_eq_self_iff] at herased
          exact herased entry hentry
      · rw [List.append_nil]
    · have hrelease := upkeep_unsubscribe surface aura.ending.name ⟨b₁.nextListener⟩ b₂
      rw [leftBy_of_ok hok] at hrelease
      exact ((hrelease.trans (upkeep_eq_of_bare hback.bare_eq)).trans hupkeep).trans
        (upkeep_eq_of_bare hshift.bare_eq)
  · rw [← Bool.not_eq_true, isBound_iff] at hunbound
    exact absurd ⟨endingListener aura slot, by simp [hnow]⟩ hunbound

/-! ### Additions -/

/-- Whether an aura that has just been added can be removed, and all is as before then. -/
def NetZero (b : Board) (id : AuraId) (b₁ : Board) : Prop :=
  ∃ b₂, Board.removeAura id b₁ = .ok () b₂ ∧ Restored b b₂

lemma netZero_iff {b b₁ c : Board} {holder : PlayerId} {owner : EntityId} {aura aura' : Aura}
    {id : AuraId} (hon : aura.switchOn (nextSlot b holder owner) (numbered b) = .ok aura' c)
    (hremove : Board.removeAura id b₁ = aura'.switchOff c)
    (hmore : ∀ b₂, aura'.switchOff c = .ok () b₂ → level b₂ = level b → Reversed (numbered b) b₂) :
    NetZero b id b₁ ↔ ∃ b₂, aura'.switchOff c = .ok () b₂ ∧ Reversed (numbered b) b₂ := by
  unfold NetZero
  rw [hremove]
  constructor
  · rintro ⟨b₂, hoff, hrestored⟩
    refine ⟨b₂, hoff, hmore b₂ hoff ?_⟩
    funext entity key
    simp only [level, hrestored.stats_eq]
  · rintro ⟨b₂, hoff, hreversed⟩
    exact ⟨b₂, hoff, restored_of_reversed hon hoff hreversed⟩

/-- An aura that is added on a board of a run and removed at once leaves everything as it was. The
one exception is an aura that gives health to those with the lowest and picks anew whom to leave:
there it is so exactly if those who gain still have the lowest health. -/
theorem added_aura_net_zero {σ : Type} {settings : Settings} {host : σ} {game : Game σ}
    (hnew : Game.new settings host = .ok game) (program : Program σ) {b : Board}
    (hb : b ∈ boards program game) (holder : PlayerId) (owner : EntityId) {aura : Aura}
    (hbuiltIn : ∀ m, aura = .minions m → IsBuiltInSelector m.selector) {id : AuraId} {b₁ : Board}
    (hadd : Board.addAura holder owner aura b = .ok id b₁) :
    ((∀ m amount, aura = .minions m → ¬RaisesLowest m amount) → NetZero b id b₁) ∧
    ∀ m amount covered, aura = .minions m → RaisesLowest m amount →
      m.players.minions b owner = .ok covered →
        (NetZero b id b₁ ↔ KeepsLowest b covered amount.val) := by
  have hdev := ((boards_develop (dispatching_new hnew) program).2 b hb).1
  have hholdings := (holdingsFit_new hnew).develops hdev
  have hlisteners := (listenersFit_new (board_new hnew)).develops hdev
  have hwell : WellFormed (outline (numbered b)) := hholdings.wellFormed.number_aura
  obtain ⟨howner, aura', c, hon, hremove⟩ := removeAura_added hholdings hadd
  have howner' : (numbered b).contains (nextSlot b holder owner).owner = true := howner
  rcases aura_switchOn_ok hon with ⟨m, m', rfl, rfl, hm⟩ | ⟨p, p', rfl, rfl, hp⟩
  · have hmore : ∀ b₂, m'.switchOff c = .ok () b₂ → level b₂ = level b →
        Reversed (numbered b) b₂ := by
      intro b₂ hoff hlevel
      have hbare := minions_switchOff_bare m' c
      rw [leftBy_of_ok hoff] at hbare
      obtain ⟨matched, -, -, hshift⟩ := minions_switchOn_ok hm
      have hboth := hbare.trans hshift.bare_eq
      exact ⟨hlevel, listenersAt_eq_of_bare hboth, upkeep_eq_of_bare hboth⟩
    have hiff := netZero_iff hon hremove hmore
    refine ⟨fun hexcept => hiff.mpr ?_, fun m'' amount covered heq hraises hcovered => ?_⟩
    · exact minions_reversed hwell howner' hm fun hremoval =>
        confirms_of_builtIn (hbuiltIn m rfl) hremoval fun amount => hexcept m amount rfl
    · obtain rfl := Aura.minions.inj heq
      exact hiff.trans (raised_reversed_iff hwell howner' hraises hm hcovered)
  · refine ⟨fun _ => ?_, fun m amount covered heq => by simp at heq⟩
    have hfit : ListenersFit (numbered b) := hlisteners.of_fewer hwell (fewer_of_listening rfl)
    obtain ⟨b₂, hoff, hreversed⟩ := player_reversed hfit howner' hp
    exact ⟨b₂, hremove.trans hoff, restored_of_reversed hon hoff hreversed⟩

/-- Two minions are summoned, the second with more health than the first. -/
def ranks : Program Unit :=
  .perform (.summon ⟨0⟩ none "Page" .one .one) fun _ =>
    .perform (.summon ⟨0⟩ none "Knight" .one (.clamp 2)) fun _ => .finish (.ok ())

/-- An aura on the lowest health that picks anew whom to leave. -/
def leastAura (change : StatChange) : Aura :=
  .minions { change, selector := .hasLowestHealth, removal := .recompute }

/-- Taunt for the lowest health is net zero. One more health is not: the first minion catches up
with the second, and both are left. -/
theorem ranks_net_zero :
    ∃ game, Game.new Settings.standard () = .ok game ∧ ∃ b ∈ boards ranks game,
      (∃ id b₁, Board.addAura ⟨0⟩ ⟨0⟩ (leastAura .taunt) b = .ok id b₁ ∧ NetZero b id b₁) ∧
      ∃ id b₁, Board.addAura ⟨0⟩ ⟨0⟩ (leastAura (.health .one)) b = .ok id b₁ ∧
        ¬NetZero b id b₁ := by
  obtain ⟨game, hnew⟩ : ∃ game, Game.new Settings.standard () = .ok game := ⟨_, rfl⟩
  have hlast : (leftBy (Game.execute ranks) game).board ∈ boards ranks game := by
    simp [boards]
  have hbuiltIn : ∀ change m, leastAura change = .minions m → IsBuiltInSelector m.selector := by
    rintro change m heq
    obtain rfl := Aura.minions.inj heq
    exact ⟨"has_lowest_health", by simp [bareSelectors]⟩
  refine ⟨game, hnew, _, hlast, ?_, ?_⟩
  · obtain ⟨id, b₁, hadd⟩ : ∃ id b₁, Board.addAura ⟨0⟩ ⟨0⟩ (leastAura .taunt)
        (leftBy (Game.execute ranks) game).board = .ok id b₁ := by
      cases hnew
      exact ⟨_, _, rfl⟩
    refine ⟨id, b₁, hadd, (added_aura_net_zero hnew ranks hlast ⟨0⟩ ⟨0⟩ (hbuiltIn _) hadd).1 ?_⟩
    rintro m amount heq ⟨-, -, hchange, -⟩
    obtain rfl := Aura.minions.inj heq
    cases hchange
  · obtain ⟨id, b₁, hadd⟩ : ∃ id b₁, Board.addAura ⟨0⟩ ⟨0⟩ (leastAura (.health .one))
        (leftBy (Game.execute ranks) game).board = .ok id b₁ := by
      cases hnew
      exact ⟨_, _, rfl⟩
    have hcovered : Coverage.friendly.minions (leftBy (Game.execute ranks) game).board ⟨0⟩ =
        .ok [⟨2⟩, ⟨3⟩] := by
      cases hnew
      rfl
    have hiff := (added_aura_net_zero hnew ranks hlast ⟨0⟩ ⟨0⟩ (hbuiltIn _) hadd).2 _ .one _ rfl
      ⟨rfl, rfl, rfl, by decide⟩ hcovered
    refine ⟨id, b₁, hadd, fun hzero => ?_⟩
    have hlow := hiff.mp hzero ⟨2⟩ (by simp)
    cases hnew
    revert hlow
    unfold Amount.one
    decide +kernel

end CardEffects.Proofs
